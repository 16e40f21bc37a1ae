import IntegrationHost.Config.Error

/-!
# Masks

What answers leave out of the wordings of failures, because it differs from one time to the next:
what a parser says, and for how long a borrower has waited.
-/

namespace IntegrationHost.Rehearsal

/-- A text without what a parser says, which stands behind the beginning of such a wording. -/
def withoutDetails (text : String) : String :=
  [Config.Error.loading, Config.Error.unmarshalling].foldl (fun text start =>
    match Text.splitOnce start text with
    | some (before, _) => before ++ start ++ Config.Error.detail
    | none => text) text

/-- A text without the time that a borrower has waited. -/
def withoutTime (text : String) : String :=
  match Text.splitOnce "Timed out after " text with
  | none => text
  | some (before, rest) =>
    match Text.splitOnce "ms waiting for " rest with
    | none => text
    | some (_, behind) => before ++ "Timed out after <n>ms waiting for " ++ behind

/-- A text with all that is left out. -/
def masked (text : String) : String := withoutTime (withoutDetails text)

end IntegrationHost.Rehearsal
