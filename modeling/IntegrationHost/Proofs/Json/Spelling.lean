import IntegrationHost.Proofs.Json.Record

/-!
# Values that can be spelled

Every value has a text if its numbers are as numbers are written, also one whose literals stand for
no text: tokens are written one after the other, with blanks between them. And only such values are
read.
-/

namespace IntegrationHost.Json

/-! ## Numbers of a value -/

/-- All numbers in a value are such as is asked for. -/
def Numbers (number : Numeral → Prop) (value : Json) : Prop :=
  ∀ n, .number n ∈ value.spelling → number n

section

variable {number : Numeral → Prop}

theorem numbers_number {n : Numeral} : (Json.number n).Numbers number ↔ number n := by
  simp [Numbers, spelling]

theorem number_mem_spellingItems {n : Numeral} {items : List Json} :
    .number n ∈ spellingItems items ↔ ∃ item ∈ items, .number n ∈ item.spelling := by
  induction items with
  | nil => simp [spellingItems]
  | cons item rest ih => simp [spellingItems, ih]

theorem number_mem_spellingMembers {n : Numeral} {members : List (Literal × Json)} :
    .number n ∈ spellingMembers members ↔ ∃ m ∈ members, .number n ∈ m.2.spelling := by
  induction members with
  | nil => simp [spellingMembers]
  | cons m rest ih => simp [spellingMembers, ih]

theorem numbers_array {items : List Json} :
    (array items).Numbers number ↔ ∀ item ∈ items, item.Numbers number := by
  have inside : ∀ n, .number n ∈ (array items).spelling ↔
      ∃ item ∈ items, .number n ∈ item.spelling := by
    intro n
    cases items with
    | nil => simp [spelling]
    | cons item rest => simp [spelling, number_mem_spellingItems]
  unfold Numbers
  simp only [inside]
  grind

theorem numbers_object {members : List (Literal × Json)} :
    (object members).Numbers number ↔ ∀ m ∈ members, m.2.Numbers number := by
  have inside : ∀ n, .number n ∈ (object members).spelling ↔
      ∃ m ∈ members, .number n ∈ m.2.spelling := by
    intro n
    cases members with
    | nil => simp [spelling]
    | cons m rest => simp [spelling, number_mem_spellingMembers]
  unfold Numbers
  simp only [inside]
  grind

mutual

/-- The numbers of a legible value are such as is asked for. -/
theorem numbers_of_legible : ∀ {value : Json}, value.Legible number → value.Numbers number
  | .null, _ | .bool _, _ | .string _, _ => by simp [Numbers, spelling]
  | .number _, allowed => numbers_number.mpr allowed
  | .array _, items => numbers_array.mpr (numbers_of_legibleItems items)
  | .object _, members => numbers_object.mpr (numbers_of_legibleMembers members)

theorem numbers_of_legibleItems : ∀ {items : List Json}, LegibleItems number items →
    ∀ item ∈ items, item.Numbers number
  | [], _ => List.forall_mem_nil _
  | _ :: _, ⟨item, rest⟩ =>
      List.forall_mem_cons.mpr ⟨numbers_of_legible item, numbers_of_legibleItems rest⟩

theorem numbers_of_legibleMembers : ∀ {members : List (Literal × Json)},
    LegibleMembers number members → ∀ m ∈ members, m.2.Numbers number
  | [], _ => List.forall_mem_nil _
  | _ :: _, ⟨_, value, rest⟩ =>
      List.forall_mem_cons.mpr ⟨numbers_of_legible value, numbers_of_legibleMembers rest⟩

end

end

/-! ## From tokens to a text -/

/-- A token as it is written; a literal that stands for no text is half of a surrogate pair. -/
def Token.text : Token → List Char
  | .arrayOpen => ['[']
  | .arrayClose => [']']
  | .objectOpen => ['\x7b']
  | .objectClose => ['\x7d']
  | .comma => [',']
  | .colon => [':']
  | .null => "null".toList
  | .bool true => "true".toList
  | .bool false => "false".toList
  | .number n => (printNumeral n).toList
  | .string none => ['"', '\\', 'u', 'd', '8', '0', '0', '"']
  | .string (some s) => (quote s).toList

/-- A token is scanned from its text and a blank behind it. -/
theorem Spells.tokenText {cs : List Char} {ts : List Token} (rest : Spells cs ts) (t : Token)
    (written : ∀ n, t = .number n → n.Written) :
    Spells (t.text ++ ' ' :: cs) (t :: ts) := by
  have behind : Spells (' ' :: cs) ts := .space rfl rest
  match t with
  | .arrayOpen => exact .mark '[' rfl rfl behind
  | .arrayClose => exact .mark ']' rfl rfl behind
  | .objectOpen => exact .mark '\x7b' rfl rfl behind
  | .objectClose => exact .mark '\x7d' rfl rfl behind
  | .comma => exact .comma behind
  | .colon => exact .mark ':' rfl rfl behind
  | .null => exact .token (c := 'n') ['u', 'l', 'l'] rfl rfl behind
  | .bool true => exact .token (c := 't') ['r', 'u', 'e'] rfl rfl behind
  | .bool false => exact .token (c := 'f') ['a', 'l', 's', 'e'] rfl rfl behind
  | .number n =>
      exact .numeral (written n rfl) (endsNumber_cons rfl (by decide) cs) behind
  | .string none => exact .token (c := '"') ['\\', 'u', 'd', '8', '0', '0', '"'] rfl rfl behind
  | .string (some s) =>
      have literal : Spells ((printLiteral (some s)).toList ++ ' ' :: cs) _ := .literal rfl behind
      exact literal

theorem spells_texts {ts : List Token} (written : ∀ n, .number n ∈ ts → n.Written) :
    Spells (ts.flatMap fun t => t.text ++ [' ']) ts := by
  induction ts with
  | nil => exact .nil
  | cons t rest ih =>
      have others := ih fun n member => written n (List.mem_cons_of_mem t member)
      rw [List.flatMap_cons, List.append_assoc, List.singleton_append]
      exact others.tokenText t fun n same => written n (same ▸ List.mem_cons_self)

/-- A value whose numbers are as they are written has a text. -/
theorem exists_text {value : Json} (written : value.Numbers Numeral.Written) :
    ∃ text, read? text = some value := by
  refine ⟨String.ofList (value.spelling.flatMap fun t => t.text ++ [' ']), ?_⟩
  rw [read?, String.toList_ofList, (spells_texts written).tokens]
  exact ofTokens?_spelling value

/-! ## From a text to tokens -/

theorem written_of_digits? {cs digits rest : List Char} (found : digits? cs = some (digits, rest)) :
    digits ≠ [] ∧ ∀ c ∈ digits, isDigit c = true := by
  unfold digits? at found
  split at found
  · cases found
  · rename_i notNil
    cases found
    exact ⟨notNil, List.all_eq_true.mp List.all_takeWhile⟩

theorem written_of_unsigned? {negative : Bool} {cs rest : List Char} {n : Numeral}
    (found : unsigned? negative cs = some (n, rest)) : n.Written := by
  obtain ⟨⟨whole, cs⟩, _, found⟩ := Option.bind_eq_some_iff.mp found
  obtain ⟨⟨fraction, cs⟩, isFraction, found⟩ := Option.bind_eq_some_iff.mp found
  obtain ⟨⟨exponent, cs⟩, _, given⟩ := Option.bind_eq_some_iff.mp found
  cases given
  rintro digits rfl
  unfold fraction? at isFraction
  split at isFraction
  · obtain ⟨⟨digits, rest⟩, isDigits, given⟩ := Option.map_eq_some_iff.mp isFraction
    cases given
    exact written_of_digits? isDigits
  · cases isFraction

theorem written_of_token? {cs rest : List Char} {n : Numeral}
    (found : token? cs = some (.number n, rest)) : n.Written := by
  unfold token? at found
  split at found
  case h_9 | h_13 =>
    obtain ⟨⟨m, rest⟩, isNumber, given⟩ := Option.map_eq_some_iff.mp found
    cases given
    exact written_of_unsigned? isNumber
  -- A literal or a word is another token.
  case h_8 | h_10 | h_11 | h_12 =>
    obtain ⟨read, _, given⟩ := Option.map_eq_some_iff.mp found
    cases given
  all_goals cases found

theorem written_of_tokensWithin {bound : Nat} {cs : List Char} {ts : List Token}
    (found : tokensWithin bound cs = some ts) : ∀ n, .number n ∈ ts → n.Written := by
  induction bound generalizing cs ts with
  | zero =>
      rw [tokensWithin, Option.ite_none_right_eq_some] at found
      cases found.2
      exact fun n member => absurd member List.not_mem_nil
  | succ bound ih =>
      cases cs with
      | nil =>
          cases found
          exact fun n member => absurd member List.not_mem_nil
      | cons c cs =>
          rw [tokensWithin] at found
          by_cases space : isSpace c = true
          · rw [if_pos space] at found
            exact ih found
          · rw [if_neg space] at found
            obtain ⟨⟨t, rest⟩, first, found⟩ := Option.bind_eq_some_iff.mp found
            obtain ⟨more, others, given⟩ := Option.bind_eq_some_iff.mp found
            cases given
            intro n member
            rcases List.mem_cons.mp member with rfl | behind
            · exact written_of_token? first
            · exact ih others n behind

/-! ## From tokens to a value -/

section

variable {number : Numeral → Prop}

/-- All numbers in an array or object that is not closed are such as is asked for. -/
def Frame.Numbers (number : Numeral → Prop) : Frame → Prop
  | .array items => ∀ item ∈ items, item.Numbers number
  | .object members _ => ∀ m ∈ members, m.2.Numbers number

/-- All numbers in what was read last are such as is asked for. -/
def Phase.Numbers (number : Numeral → Prop) : Phase → Prop
  | .key members => ∀ m ∈ members, m.2.Numbers number
  | .commaOrClose last => last.Numbers number
  | _ => True

/-- All numbers read so far are such as is asked for. -/
structure Reader.Numbers (number : Numeral → Prop) (r : Reader) : Prop where
  stack : ∀ frame ∈ r.stack, frame.Numbers number
  phase : r.phase.Numbers number

namespace Reader

theorem numbers_value? {stack : List Frame} {t : Token} {r : Reader}
    (numbers : ∀ frame ∈ stack, frame.Numbers number) (allowed : ∀ n, t = .number n → number n)
    (found : value? stack t = some r) : r.Numbers number := by
  cases t with
  | null | bool _ | string _ =>
      cases found
      exact ⟨numbers, by simp [Phase.Numbers, Json.Numbers, spelling]⟩
  | number n =>
      cases found
      exact ⟨numbers, numbers_number.mpr (allowed n rfl)⟩
  | arrayOpen =>
      cases found
      exact ⟨List.forall_mem_cons.mpr ⟨List.forall_mem_nil _, numbers⟩, trivial⟩
  | objectOpen =>
      cases found
      exact ⟨numbers, trivial⟩
  | _ => cases found

/-- A step brings no number that was not in the token. -/
theorem numbers_step {r r' : Reader} {t : Token} (numbers : r.Numbers number)
    (allowed : ∀ n, t = .number n → number n) (found : r.step t = some r') :
    r'.Numbers number := by
  obtain ⟨frames, read⟩ := numbers
  -- What is read goes from the last value to the frame around it, and from a frame to a value.
  unfold step at found
  split at found
  case h_1 => exact numbers_value? frames allowed found
  case h_3 => exact numbers_value? frames allowed found
  case h_12 => cases found
  case h_2 isStack =>
      cases found
      rw [isStack, List.forall_mem_cons] at frames
      exact ⟨frames.2, numbers_array.mpr (List.forall_mem_nil _)⟩
  case h_4 =>
      cases found
      exact ⟨frames, numbers_object.mpr (List.forall_mem_nil _)⟩
  case h_5 =>
      cases found
      exact ⟨List.forall_mem_cons.mpr ⟨List.forall_mem_nil _, frames⟩, trivial⟩
  case h_6 isPhase =>
      cases found
      rw [isPhase] at read
      exact ⟨List.forall_mem_cons.mpr ⟨read, frames⟩, trivial⟩
  case h_7 =>
      cases found
      exact ⟨frames, trivial⟩
  case h_8 isPhase isStack =>
      cases found
      rw [isPhase] at read
      rw [isStack, List.forall_mem_cons] at frames
      refine ⟨List.forall_mem_cons.mpr ⟨?_, frames.2⟩, trivial⟩
      exact List.forall_mem_cons.mpr ⟨read, frames.1⟩
  case h_9 isPhase isStack =>
      cases found
      rw [isPhase] at read
      rw [isStack, List.forall_mem_cons] at frames
      refine ⟨frames.2, numbers_array.mpr fun item member => ?_⟩
      rcases List.mem_cons.mp (List.mem_reverse.mp member) with rfl | before
      · exact read
      · exact frames.1 item before
  case h_10 isPhase isStack =>
      cases found
      rw [isPhase] at read
      rw [isStack, List.forall_mem_cons] at frames
      exact ⟨frames.2, List.forall_mem_cons.mpr ⟨read, frames.1⟩⟩
  case h_11 isPhase isStack =>
      cases found
      rw [isPhase] at read
      rw [isStack, List.forall_mem_cons] at frames
      refine ⟨frames.2, numbers_object.mpr fun m member => ?_⟩
      rcases List.mem_cons.mp (List.mem_reverse.mp member) with rfl | before
      · exact read
      · exact frames.1 m before

theorem numbers_run {r r' : Reader} {ts : List Token} (numbers : r.Numbers number)
    (allowed : ∀ n, .number n ∈ ts → number n) (found : r.run ts = some r') :
    r'.Numbers number := by
  induction ts generalizing r with
  | nil =>
      cases found
      exact numbers
  | cons t rest ih =>
      obtain ⟨next, step, found⟩ := Option.bind_eq_some_iff.mp found
      have nextNumbers := numbers_step numbers (fun n same => allowed n (same ▸ List.mem_cons_self))
        step
      exact ih nextNumbers (fun n member => allowed n (List.mem_cons_of_mem t member)) found

end Reader

end

/-- The numbers of a value that was read from a text are as numbers are written. -/
theorem numbers_of_read? {text : String} {value : Json} (found : read? text = some value) :
    value.Numbers Numeral.Written := by
  obtain ⟨ts, scanned, found⟩ := Option.bind_eq_some_iff.mp found
  obtain ⟨r, run, found⟩ := Option.bind_eq_some_iff.mp found
  have start : Reader.start.Numbers Numeral.Written := ⟨List.forall_mem_nil _, trivial⟩
  have numbers := (Reader.numbers_run start (written_of_tokensWithin scanned) run).phase
  unfold Reader.value at found
  split at found
  · rename_i isLast _
    cases found
    rw [isLast] at numbers
    exact numbers
  · cases found

end IntegrationHost.Json
