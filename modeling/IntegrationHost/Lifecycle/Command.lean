import IntegrationHost.Lifecycle.Managed
import IntegrationHost.Text.Search

/-!
# Commands in words

How a command to a managed component is written: the word of an event, such a word behind
`request_`, or the word of a state behind `to:`.
-/

namespace IntegrationHost.Lifecycle.Command

/-- Read a command. The failure is a word behind `to:` that stands for no state. -/
def ofText? (text : String) : Option (Except String Command) :=
  match Event.ofName? text with
  | some event => some (.ok (.fire event))
  | none =>
    match (Text.stripStart? "request_" text).bind Event.ofName? with
    | some event => some (.ok (.request event))
    | none => (Text.stripStart? "to:" text).map fun word =>
        match State.ofName? word with
        | some state => .ok (.moveTo state)
        | none => .error word

end IntegrationHost.Lifecycle.Command
