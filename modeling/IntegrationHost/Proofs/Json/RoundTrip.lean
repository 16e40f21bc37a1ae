import IntegrationHost.Json.Reader
import IntegrationHost.Proofs.Json.Numeral

/-!
# Values written and read

The text of a value, with one item or member a line, reads as that value. It is shown in the two
passes of the reader: the text is scanned into the tokens that spell the value, whatever the level
of indentation, and the tokens are read as the value, whatever waits on the stack.
-/

namespace IntegrationHost.Json

/-! ## Literals -/

theorem hexValue?_hexDigit : ∀ n < 16, hexValue? (hexDigit n) = some n := by
  decide

/-- A character behind a backslash is read as what it stands for. -/
theorem literalUnits_escaped {mark c : Char} (stands : escaped? mark = some c) (rest : List Char) :
    literalUnits ('\\' :: mark :: rest) =
      (literalUnits rest).map fun more => (c.toNat :: more.1, more.2) := by
  rw [literalUnits.eq_def]
  split
  case h_1 impossible => cases impossible
  case h_2 impossible => cases impossible
  case h_3 same =>
    cases same
    cases stands
  case h_4 same =>
    cases same
    rw [stands]
    cases literalUnits rest <;> rfl
  case h_5 notLone same =>
    cases same
    exact (notLone mark rest rfl rfl).elim

/-- A character that needs no escape is read as itself. -/
theorem literalUnits_plain {c : Char} (notQuote : c ≠ '"') (notBackslash : c ≠ '\\')
    (notControl : ¬ c.toNat < 0x20) (rest : List Char) :
    literalUnits (c :: rest) =
      (literalUnits rest).map fun more => (c.toNat :: more.1, more.2) := by
  rw [literalUnits.eq_def]
  split
  case h_1 impossible => cases impossible
  case h_2 same => exact absurd (List.cons.inj same).1 notQuote
  case h_3 same => exact absurd (List.cons.inj same).1 notBackslash
  case h_4 same => exact absurd (List.cons.inj same).1 notBackslash
  case h_5 same =>
    cases same
    rw [if_neg (by simp [notControl, notBackslash])]

/-- An escaped character is read as the unit that stands for it. -/
theorem literalUnits_escape (c : Char) (rest : List Char) :
    literalUnits (escape c ++ rest) =
      (literalUnits rest).map fun more => (c.toNat :: more.1, more.2) := by
  unfold escape
  split
  case h_8 notQuote notBackslash _ _ _ _ _ =>
    by_cases control : c.toNat < 0x20
    · rw [if_pos control]
      have high := hexValue?_hexDigit (c.toNat / 16) (by omega)
      have low := hexValue?_hexDigit (c.toNat % 16) (by omega)
      have zero : hexValue? '0' = some 0 := rfl
      have unit : ((0 * 16 + 0) * 16 + c.toNat / 16) * 16 + c.toNat % 16 = c.toNat := by omega
      simp only [List.cons_append, List.nil_append, literalUnits, hexUnit?, zero, high, low,
        Option.bind_eq_bind, Option.bind_some, unit]
      cases literalUnits rest <;> rfl
    · rw [if_neg control]
      exact literalUnits_plain notQuote notBackslash control rest
  all_goals exact literalUnits_escaped rfl rest

/-- The units of a text between quotes. -/
theorem literalUnits_quoted (cs rest : List Char) :
    literalUnits (cs.flatMap escape ++ '"' :: rest) = some (cs.map Char.toNat, rest) := by
  induction cs with
  | nil => rw [List.flatMap_nil, List.nil_append, literalUnits, List.map_nil]
  | cons c cs ih =>
      rw [List.flatMap_cons, List.append_assoc, literalUnits_escape, ih]
      rfl

/-- No character is half of a surrogate pair. -/
theorem unitsText_toNat (cs : List Char) : unitsText (cs.map Char.toNat) = some cs := by
  induction cs with
  | nil => rfl
  | cons c cs ih =>
      have valid : c.toNat < 0xd800 ∨ 0xdfff < c.toNat ∧ c.toNat < 0x110000 := c.valid
      have notHigh : isHighSurrogate c.toNat = false := by
        simp only [isHighSurrogate, decide_eq_false_iff_not]
        omega
      have notLow : isLowSurrogate c.toNat = false := by
        simp only [isLowSurrogate, decide_eq_false_iff_not]
        omega
      rw [List.map_cons, unitsText.eq_def]
      simp only [notHigh, notLow, ih, Bool.false_eq_true, if_false, Option.map_some,
        Char.ofNat_toNat]

theorem toList_quote (s : String) :
    (quote s).toList = '"' :: (s.toList.flatMap escape ++ ['"']) := by
  simp [quote]

/-- A text is read back as it was quoted. -/
theorem token?_quote (s : String) (rest : List Char) :
    token? ((quote s).toList ++ rest) = some (.string (some s), rest) := by
  have units := literalUnits_quoted s.toList rest
  rw [toList_quote, List.cons_append, List.append_assoc, List.singleton_append, token?, units]
  simp only [Option.map_some, unitsText_toNat, String.ofList_toList]

/-! ## Scanning -/

/-- Characters that are scanned into tokens. -/
inductive Spells : List Char → List Token → Prop where
  | nil : Spells [] []
  | space {c : Char} {cs : List Char} {ts : List Token} (isSpace : isSpace c = true)
      (rest : Spells cs ts) : Spells (c :: cs) ts
  | token {c : Char} (text : List Char) {cs : List Char} {t : Token} {ts : List Token}
      (notSpace : Json.isSpace c = false) (read : token? (c :: text ++ cs) = some (t, cs))
      (rest : Spells cs ts) : Spells (c :: text ++ cs) (t :: ts)

/-- A bound that is no less than the number of characters is never met. -/
theorem Spells.tokensWithin {cs : List Char} {ts : List Token} (spells : Spells cs ts) {bound : Nat}
    (enough : cs.length ≤ bound) : Json.tokensWithin bound cs = some ts := by
  induction spells generalizing bound with
  | nil => cases bound <;> rfl
  | space isSpace _ ih =>
      cases bound with
      | zero => cases enough
      | succ bound =>
          simp only [Json.tokensWithin, isSpace, if_true]
          exact ih (Nat.le_of_succ_le_succ enough)
  | @token c text cs t ts notSpace read _ ih =>
      cases bound with
      | zero => cases enough
      | succ bound =>
          have shorter : cs.length ≤ bound := by
            rw [List.length_append, List.length_cons] at enough
            omega
          rw [List.cons_append] at read ⊢
          simp only [Json.tokensWithin, notSpace, Bool.false_eq_true, if_false, read,
            Option.bind_eq_bind, Option.bind_some, ih shorter]
          rfl

theorem Spells.tokens {cs : List Char} {ts : List Token} (spells : Spells cs ts) :
    Json.tokens cs = some ts :=
  spells.tokensWithin (Nat.le_refl _)

/-! ## What is spelled -/

mutual

/-- Every string and key is text, and every number is such as is asked for. -/
def Legible (number : Numeral → Prop) : Json → Prop
  | .number n => number n
  | .string s => s.isSome = true
  | .array items => LegibleItems number items
  | .object members => LegibleMembers number members
  | _ => True

/-- All items are legible. -/
def LegibleItems (number : Numeral → Prop) : List Json → Prop
  | [] => True
  | item :: rest => item.Legible number ∧ LegibleItems number rest

/-- All keys and values are legible. -/
def LegibleMembers (number : Numeral → Prop) : List (Literal × Json) → Prop
  | [] => True
  | (key, value) :: rest =>
    key.isSome = true ∧ value.Legible number ∧ LegibleMembers number rest

end

mutual

/-- The tokens that spell a value. -/
def spelling : Json → List Token
  | .null => [.null]
  | .bool b => [.bool b]
  | .number n => [.number n]
  | .string s => [.string s]
  | .array [] => [.arrayOpen, .arrayClose]
  | .array (item :: items) =>
    .arrayOpen :: (item.spelling ++ (spellingItems items ++ [.arrayClose]))
  | .object [] => [.objectOpen, .objectClose]
  | .object ((key, value) :: members) =>
    .objectOpen :: .string key :: .colon ::
      (value.spelling ++ (spellingMembers members ++ [.objectClose]))

/-- The tokens that spell the items behind the first. -/
def spellingItems : List Json → List Token
  | [] => []
  | item :: rest => .comma :: (item.spelling ++ spellingItems rest)

/-- The tokens that spell the members behind the first. -/
def spellingMembers : List (Literal × Json) → List Token
  | [] => []
  | (key, value) :: rest =>
    .comma :: .string key :: .colon :: (value.spelling ++ spellingMembers rest)

end

/-! ## From text to tokens -/

/-- A number begins with a sign or a digit. -/
theorem printNumeral_cons (n : Numeral) :
    ∃ c text, (printNumeral n).toList = c :: text ∧ isSpace c = false := by
  rw [toList_printNumeral, unsignedText]
  cases n.negative with
  | true => exact ⟨'-', _, rfl, rfl⟩
  | false =>
      obtain ⟨c, digits, digits_eq⟩ := List.exists_cons_of_ne_nil
        (Nat.toDigits_ne_nil (b := 10) (n := n.whole))
      have digit : isDigit c = true := isDigit_toDigits (n := n.whole) (by simp [digits_eq])
      refine ⟨c, digits ++ (fractionText n.fraction ++ exponentText n.exponent), ?_, ?_⟩
      · simp [digits_eq]
      · cases space : isSpace c with
        | false => rfl
        | true =>
            simp only [isSpace, Bool.or_eq_true, beq_iff_eq] at space
            rcases space with ((rfl | rfl) | rfl) | rfl <;> cases digit

namespace Spells

variable {cs : List Char} {ts : List Token}

/-- A line may be broken and indented anywhere between tokens. -/
theorem newLine (level : Nat) (rest : Spells cs ts) :
    Spells ((Json.newLine level).toList ++ cs) ts := by
  have blanks : ∀ n, Spells (List.replicate n ' ' ++ cs) ts := by
    intro n
    induction n with
    | zero => exact rest
    | succ n ih => exact .space rfl ih
  rw [Json.newLine, String.toList_ofList]
  exact .space rfl (blanks _)

theorem literal {key : Literal} (isText : key.isSome = true) (rest : Spells cs ts) :
    Spells ((printLiteral key).toList ++ cs) (.string key :: ts) := by
  obtain ⟨s, rfl⟩ := Option.isSome_iff_exists.mp isText
  have read := token?_quote s cs
  rw [printLiteral, Option.getD_some]
  rw [toList_quote] at read ⊢
  exact .token _ rfl read rest

theorem numeral {n : Numeral} (written : n.Written) (ended : EndsNumber cs) (rest : Spells cs ts) :
    Spells ((printNumeral n).toList ++ cs) (.number n :: ts) := by
  have read := token?_printNumeral written ended
  obtain ⟨c, text, text_eq, notSpace⟩ := printNumeral_cons n
  rw [text_eq] at read ⊢
  exact .token text notSpace read rest

/-- A token of one character. -/
theorem mark (c : Char) {t : Token} (notSpace : isSpace c = false)
    (read : token? (c :: cs) = some (t, cs)) (rest : Spells cs ts) : Spells (c :: cs) (t :: ts) :=
  .token [] notSpace read rest

theorem comma (rest : Spells cs ts) : Spells (',' :: cs) (.comma :: ts) :=
  rest.mark ',' rfl rfl

/-- A colon with a blank behind it. -/
theorem colon (rest : Spells cs ts) : Spells (':' :: ' ' :: cs) (.colon :: ts) :=
  mark ':' rfl rfl (.space rfl rest)

end Spells

theorem endsNumber_newLine (level : Nat) (cs : List Char) :
    EndsNumber ((newLine level).toList ++ cs) := by
  rw [newLine, String.toList_ofList, List.cons_append]
  exact endsNumber_cons rfl (by decide) _

theorem endsNumber_items (level : Nat) (items : List Json) {cs : List Char}
    (ended : EndsNumber cs) : EndsNumber ((prettyItems level items).toList ++ cs) := by
  cases items with
  | nil => exact ended
  | cons item items =>
      simp only [prettyItems, String.toList_append, List.append_assoc]
      exact endsNumber_cons rfl (by decide) _

theorem endsNumber_members (level : Nat) (members : List (Literal × Json)) {cs : List Char}
    (ended : EndsNumber cs) : EndsNumber ((prettyMembers level members).toList ++ cs) := by
  cases members with
  | nil => exact ended
  | cons member members =>
      simp only [prettyMembers, String.toList_append, List.append_assoc]
      exact endsNumber_cons rfl (by decide) _

mutual

/-- The text of a value is scanned into the tokens that spell it, at every level. -/
theorem spells_prettyAt (level : Nat) {cs : List Char} {ts : List Token} (rest : Spells cs ts)
    (ended : EndsNumber cs) : ∀ value : Json, value.Legible Numeral.Written →
      Spells ((value.prettyAt level).toList ++ cs) (value.spelling ++ ts)
  | .null, _ => by
      rw [prettyAt]
      exact .token (c := 'n') ['u', 'l', 'l'] rfl rfl rest
  | .bool true, _ => by
      rw [prettyAt]
      exact .token (c := 't') ['r', 'u', 'e'] rfl rfl rest
  | .bool false, _ => by
      rw [prettyAt]
      exact .token (c := 'f') ['a', 'l', 's', 'e'] rfl rfl rest
  | .number n, legible => .numeral legible ended rest
  | .string s, legible => .literal legible rest
  | .array [], _ => by
      rw [prettyAt]
      exact .mark '[' rfl rfl (.mark ']' rfl rfl rest)
  | .array (item :: items), ⟨itemLegible, itemsLegible⟩ => by
      have close : Spells ((newLine level).toList ++ (']' :: cs)) (.arrayClose :: ts) :=
        .newLine level (.mark ']' rfl rfl rest)
      have closeEnds := endsNumber_newLine level (']' :: cs)
      have others := spells_prettyItems (level + 1) close closeEnds items itemsLegible
      have first := spells_prettyAt (level + 1) others (endsNumber_items _ _ closeEnds) item
        itemLegible
      simp only [prettyAt, spelling, String.toList_append, List.append_assoc, List.cons_append,
        List.nil_append]
      exact .mark '[' rfl rfl (first.newLine (level + 1))
  | .object [], _ => by
      rw [prettyAt]
      exact .mark '\x7b' rfl rfl (.mark '\x7d' rfl rfl rest)
  | .object ((key, value) :: members), ⟨isText, valueLegible, membersLegible⟩ => by
      have close : Spells ((newLine level).toList ++ ('\x7d' :: cs)) (.objectClose :: ts) :=
        .newLine level (.mark '\x7d' rfl rfl rest)
      have closeEnds := endsNumber_newLine level ('\x7d' :: cs)
      have others := spells_prettyMembers (level + 1) close closeEnds members membersLegible
      have first := spells_prettyAt (level + 1) others (endsNumber_members _ _ closeEnds) value
        valueLegible
      simp only [prettyAt, spelling, String.toList_append, List.append_assoc, List.cons_append,
        List.nil_append]
      exact .mark '\x7b' rfl rfl ((first.colon.literal isText).newLine (level + 1))

/-- The same of the items behind the first. -/
theorem spells_prettyItems (level : Nat) {cs : List Char} {ts : List Token} (rest : Spells cs ts)
    (ended : EndsNumber cs) : ∀ items : List Json, LegibleItems Numeral.Written items →
      Spells ((prettyItems level items).toList ++ cs) (spellingItems items ++ ts)
  | [], _ => rest
  | item :: items, ⟨itemLegible, itemsLegible⟩ => by
      have others := spells_prettyItems level rest ended items itemsLegible
      have first := spells_prettyAt level others (endsNumber_items _ _ ended) item itemLegible
      simp only [prettyItems, spellingItems, String.toList_append, List.append_assoc,
        List.cons_append]
      exact (first.newLine level).comma

/-- The same of the members behind the first. -/
theorem spells_prettyMembers (level : Nat) {cs : List Char} {ts : List Token} (rest : Spells cs ts)
    (ended : EndsNumber cs) :
    ∀ members : List (Literal × Json), LegibleMembers Numeral.Written members →
      Spells ((prettyMembers level members).toList ++ cs) (spellingMembers members ++ ts)
  | [], _ => rest
  | (key, value) :: members, ⟨isText, valueLegible, membersLegible⟩ => by
      have others := spells_prettyMembers level rest ended members membersLegible
      have first := spells_prettyAt level others (endsNumber_members _ _ ended) value valueLegible
      simp only [prettyMembers, spellingMembers, String.toList_append, List.append_assoc,
        List.cons_append]
      exact ((first.colon.literal isText).newLine level).comma

end

/-! ## From tokens to values -/

/-- What spells a value does not begin with the end of an array. -/
theorem spelling_cons (value : Json) :
    ∃ t ts, value.spelling = t :: ts ∧ t ≠ .arrayClose := by
  match value with
  | .null | .bool _ | .number _ | .string _ => exact ⟨_, _, rfl, nofun⟩
  | .array [] | .array (_ :: _) | .object [] | .object (_ :: _) =>
      rw [spelling]
      exact ⟨_, _, rfl, nofun⟩

namespace Reader

/-- The first item of an array is read like any other value. -/
theorem run_itemOrClose (stack : List Frame) (value : Json) (ts : List Token) :
    run ⟨stack, .itemOrClose⟩ (value.spelling ++ ts) =
      run ⟨stack, .value⟩ (value.spelling ++ ts) := by
  obtain ⟨t, rest, spelling_eq, notClose⟩ := spelling_cons value
  have read : step ⟨stack, .itemOrClose⟩ t = step ⟨stack, .value⟩ t := by
    cases t with
    | arrayClose => exact absurd rfl notClose
    | _ => rfl
  rw [spelling_eq, List.cons_append, run, run, read]

mutual

/-- The tokens that spell a value are read as the value. -/
theorem run_spelling (stack : List Frame) (ts : List Token) : ∀ value : Json,
    run ⟨stack, .value⟩ (value.spelling ++ ts) = run ⟨stack, .commaOrClose value⟩ ts
  | .null => rfl
  | .bool _ => rfl
  | .number _ => rfl
  | .string _ => rfl
  | .array [] => by
      rw [spelling]
      rfl
  | .array (item :: items) => by
      have first :=
        run_spelling (.array [] :: stack) (spellingItems items ++ .arrayClose :: ts) item
      have others := run_spellingItems stack ts [] item items
      rw [← run_itemOrClose, others] at first
      simp only [spelling, List.cons_append, List.append_assoc, List.nil_append]
      exact first
  | .object [] => by
      rw [spelling]
      rfl
  | .object ((key, value) :: members) => by
      have first := run_spelling (.object [] key :: stack)
        (spellingMembers members ++ .objectClose :: ts) value
      have others := run_spellingMembers stack ts [] key value members
      rw [others] at first
      simp only [spelling, List.cons_append, List.append_assoc, List.nil_append]
      exact first

/-- The items behind the first are read behind those read before. -/
theorem run_spellingItems (stack : List Frame) (ts : List Token) (before : List Json)
    (last : Json) : ∀ items : List Json,
      run ⟨.array before :: stack, .commaOrClose last⟩ (spellingItems items ++ .arrayClose :: ts) =
        run ⟨stack, .commaOrClose (.array ((last :: before).reverse ++ items))⟩ ts
  | [] => by
      rw [List.append_nil]
      rfl
  | item :: items => by
      have next := run_spelling (.array (last :: before) :: stack)
        (spellingItems items ++ .arrayClose :: ts) item
      have others := run_spellingItems stack ts (last :: before) item items
      rw [others, List.reverse_cons, List.append_assoc, List.singleton_append] at next
      rw [spellingItems, List.cons_append, List.append_assoc]
      exact next

/-- The members behind the first are read behind those read before. -/
theorem run_spellingMembers (stack : List Frame) (ts : List Token)
    (before : List (Literal × Json)) (key : Literal) (last : Json) :
    ∀ members : List (Literal × Json),
      run ⟨.object before key :: stack, .commaOrClose last⟩
          (spellingMembers members ++ .objectClose :: ts) =
        run ⟨stack, .commaOrClose (.object (((key, last) :: before).reverse ++ members))⟩ ts
  | [] => by
      rw [List.append_nil]
      rfl
  | (name, value) :: members => by
      have next := run_spelling (.object ((key, last) :: before) name :: stack)
        (spellingMembers members ++ .objectClose :: ts) value
      have others := run_spellingMembers stack ts ((key, last) :: before) name value members
      rw [others, List.reverse_cons, List.append_assoc, List.singleton_append] at next
      simp only [spellingMembers, List.cons_append, List.append_assoc]
      exact next

end

end Reader

theorem ofTokens?_spelling (value : Json) : ofTokens? value.spelling = some value := by
  have read := Reader.run_spelling [] [] value
  rw [List.append_nil] at read
  rw [ofTokens?, Reader.start, read]
  rfl

theorem spells_blank {cs : List Char} (blank : ∀ c ∈ cs, isSpace c = true) : Spells cs [] := by
  induction cs with
  | nil => exact .nil
  | cons c cs ih =>
      obtain ⟨first, others⟩ := List.forall_mem_cons.mp blank
      exact .space first (ih others)

theorem endsNumber_blank {cs : List Char} (blank : ∀ c ∈ cs, isSpace c = true) :
    EndsNumber cs := by
  rintro c more rfl
  have space := blank c List.mem_cons_self
  simp only [isSpace, Bool.or_eq_true, beq_iff_eq] at space
  rcases space with ((rfl | rfl) | rfl) | rfl <;> decide

/-- The text of a value, and blanks behind it, read as the value. -/
theorem read?_pretty_blank {value : Json} (legible : value.Legible Numeral.Written)
    {blanks : String} (blank : ∀ c ∈ blanks.toList, isSpace c = true) :
    read? (value.pretty ++ blanks) = some value := by
  have scanned :=
    spells_prettyAt 0 (spells_blank blank) (endsNumber_blank blank) value legible
  rw [List.append_nil] at scanned
  rw [read?, pretty, String.toList_append, scanned.tokens]
  exact ofTokens?_spelling value

/-- The text of a value reads as the value. -/
theorem read?_pretty {value : Json} (legible : value.Legible Numeral.Written) :
    read? value.pretty = some value := by
  have noBlanks : ∀ c ∈ "".toList, isSpace c = true := nofun
  have read := read?_pretty_blank legible noBlanks
  rwa [String.append_empty] at read

end IntegrationHost.Json
