import DiskQuery.Text.JsonString
import Mathlib.Data.List.Basic

/-!
# Texts in JSON

What a reader of JSON makes of a text, as far as texts without numbers go: the
characters are first read as tokens, and the tokens then as one value.

There are five groups.

* Tokens.  `tokens` reads a text from left to right.  It knows what it is within,
  so no character is looked at twice.
* Grammar.  `Spells` says which tokens stand for which value.  `Spells.unique`
  says that they stand for no other.
* Parts of texts.  `Lexes` says what a part of a text comes to, whatever stands
  after it.  The parts of a text are put together by `Lexes.append`.
* Strings.  `lexes_encode` says that a reader gets back the text that
  `JsonString.encode` was given.
* Values.  `Prints` says that a part of a text is a value, and
  `Prints.written_iff` that a whole text of that kind is this value and no other.
-/

namespace DiskQuery.Text

/-- The values of JSON, but for numbers. -/
inductive Json where
  | null
  | boolean (truth : Bool)
  | text (text : String)
  | array (items : List Json)
  | object (members : List (String × Json))

namespace Json

/-! ## Tokens -/

inductive Token where
  | openArray
  | closeArray
  | openObject
  | closeObject
  | comma
  | colon
  | null
  | boolean (truth : Bool)
  | text (text : String)
deriving DecidableEq

/-- What the next character belongs to. -/
inductive Within where
  /-- No token. -/
  | nothing
  /-- A word, with its letters that are still to come. -/
  | word (left : List Char) (token : Token)
  /-- A string, with its characters so far. -/
  | string (read : List Char)
  /-- An escape in a string. -/
  | escape (read : List Char)
  /-- An escape by a code, with its digits so far. -/
  | code (read digits : List Char)
deriving DecidableEq

/-- The characters that stand between tokens. -/
def isBlank (c : Char) : Bool :=
  c = ' ' ∨ c = '\t' ∨ c = '\n' ∨ c = '\r'

/-- The tokens of one character. -/
def marks : List (Char × Token) :=
  [('[', .openArray), (']', .closeArray), ('\x7b', .openObject), ('\x7d', .closeObject),
    (',', .comma), (':', .colon)]

/-- The words, by the first letter. -/
def words : List (Char × List Char × Token) :=
  [('n', "ull".toList, .null), ('t', "rue".toList, .boolean true),
    ('f', "alse".toList, .boolean false)]

/-- The characters that have a short escape, by the letter of it. -/
def escapes : List (Char × Char) :=
  [('"', '"'), ('\\', '\\'), ('/', '/'), ('b', '\x08'), ('f', '\x0c'), ('n', '\n'), ('r', '\r'),
    ('t', '\t')]

/-- The value of a hexadecimal digit. -/
def digit? (c : Char) : Option Nat :=
  if '0' ≤ c ∧ c ≤ '9' then some (c.toNat - '0'.toNat)
  else if 'a' ≤ c ∧ c ≤ 'f' then some (c.toNat - 'a'.toNat + 10)
  else if 'A' ≤ c ∧ c ≤ 'F' then some (c.toNat - 'A'.toNat + 10)
  else none

/-- The character of a code in hexadecimal digits.  Halves of a character that
has two codes are none. -/
def coded? (digits : List Char) : Option Char := do
  let values ← digits.mapM digit?
  let code := values.foldl (fun code value => 16 * code + value) 0
  if code.isValidChar then some (Char.ofNat code) else none

/-- What one character comes to: what the next one belongs to, and a token if
one ends here. -/
def advance : Within → Char → Option (Within × Option Token)
  | .nothing, c =>
      if isBlank c then some (.nothing, none)
      else if c = '"' then some (.string [], none)
      else
        match marks.lookup c, words.lookup c with
        | some token, _ => some (.nothing, some token)
        | none, some (left, token) => some (.word left token, none)
        | none, none => none
  | .word [] _, _ => none
  | .word [letter] token, c => if c = letter then some (.nothing, some token) else none
  | .word (letter :: left) token, c => if c = letter then some (.word left token, none) else none
  | .string read, c =>
      if c = '"' then some (.nothing, some (.text (String.ofList read)))
      else if c = '\\' then some (.escape read, none)
      else if c.toNat < 0x20 then none
      else some (.string (read ++ [c]), none)
  | .escape read, c =>
      if c = 'u' then some (.code read [], none)
      else (escapes.lookup c).map fun meant => (.string (read ++ [meant]), none)
  | .code read digits, c =>
      if digits.length < 3 then some (.code read (digits ++ [c]), none)
      else (coded? (digits ++ [c])).map fun meant => (.string (read ++ [meant]), none)

/-- The tokens of a text, absent if a part of it is none. -/
def tokens : Within → List Char → Option (List Token)
  | .nothing, [] => some []
  | _, [] => none
  | within, c :: rest =>
      (advance within c).bind fun (next, token) => (tokens next rest).map (token.toList ++ ·)

/-! ## Grammar -/

/-- What tokens may stand for.  The items of an array go up to its end, and so do
the members of an object. -/
inductive Phrase where
  | value (value : Json)
  | items (items : List Json)
  | members (members : List (String × Json))

/-- The tokens begin with a phrase, and the rest stands after it. -/
inductive Spells : Phrase → List Token → List Token → Prop where
  | null {rest : List Token} : Spells (.value .null) (.null :: rest) rest
  | boolean {truth : Bool} {rest : List Token} :
      Spells (.value (.boolean truth)) (.boolean truth :: rest) rest
  | text {text : String} {rest : List Token} :
      Spells (.value (.text text)) (.text text :: rest) rest
  | emptyArray {rest : List Token} :
      Spells (.value (.array [])) (.openArray :: .closeArray :: rest) rest
  | array {items : List Json} {inner rest : List Token}
      (hitems : Spells (.items items) inner rest) :
      Spells (.value (.array items)) (.openArray :: inner) rest
  | emptyObject {rest : List Token} :
      Spells (.value (.object [])) (.openObject :: .closeObject :: rest) rest
  | object {members : List (String × Json)} {inner rest : List Token}
      (hmembers : Spells (.members members) inner rest) :
      Spells (.value (.object members)) (.openObject :: inner) rest
  | lastItem {item : Json} {toks rest : List Token}
      (hitem : Spells (.value item) toks (.closeArray :: rest)) : Spells (.items [item]) toks rest
  | item {item : Json} {items : List Json} {toks more rest : List Token}
      (hitem : Spells (.value item) toks (.comma :: more))
      (hitems : Spells (.items items) more rest) :
      Spells (.items (item :: items)) toks rest
  | lastMember {name : String} {value : Json} {toks rest : List Token}
      (hvalue : Spells (.value value) toks (.closeObject :: rest)) :
      Spells (.members [(name, value)]) (.text name :: .colon :: toks) rest
  | member {name : String} {value : Json} {members : List (String × Json)}
      {toks more rest : List Token} (hvalue : Spells (.value value) toks (.comma :: more))
      (hmembers : Spells (.members members) more rest) :
      Spells (.members ((name, value) :: members)) (.text name :: .colon :: toks) rest

/-- The text is a value in JSON. -/
def Written (value : Json) (text : String) : Prop :=
  ∃ toks, tokens .nothing text.toList = some toks ∧ Spells (.value value) toks []

/-- The two phrases are of one sort. -/
def Phrase.SameSort : Phrase → Phrase → Prop
  | .value _, .value _ => True
  | .items _, .items _ => True
  | .members _, .members _ => True
  | _, _ => False

/-- No item begins with the end of an array. -/
theorem not_spells_closeArray {items : List Json} {toks rest : List Token} :
    ¬Spells (.items items) (.closeArray :: toks) rest := by
  intro h
  cases h with
  | lastItem hitem => cases hitem
  | item hitem _ => cases hitem

/-- Tokens stand for one phrase of a sort at most. -/
theorem Spells.unique {first second : Phrase} {toks rest others : List Token}
    (hfirst : Spells first toks rest) (hsecond : Spells second toks others)
    (hsort : first.SameSort second) : first = second ∧ rest = others := by
  induction hfirst generalizing second others with
  | null | boolean | text =>
    cases second with
    | value value =>
      cases hsecond
      exact ⟨rfl, rfl⟩
    | items | members => exact hsort.elim
  | emptyArray =>
    cases second with
    | value value =>
      cases hsecond with
      | emptyArray => exact ⟨rfl, rfl⟩
      | array hitems => exact absurd hitems not_spells_closeArray
    | items | members => exact hsort.elim
  | array hitems ih =>
    cases second with
    | value value =>
      cases hsecond with
      | emptyArray => exact absurd hitems not_spells_closeArray
      | array hothers =>
        obtain ⟨hsame, hrest⟩ := ih hothers trivial
        cases hsame
        exact ⟨rfl, hrest⟩
    | items | members => exact hsort.elim
  | emptyObject =>
    cases second with
    | value value =>
      cases hsecond with
      | emptyObject => exact ⟨rfl, rfl⟩
      | object hmembers => cases hmembers
    | items | members => exact hsort.elim
  | object hmembers ih =>
    cases second with
    | value value =>
      cases hsecond with
      | emptyObject => cases hmembers
      | object hothers =>
        obtain ⟨hsame, hrest⟩ := ih hothers trivial
        cases hsame
        exact ⟨rfl, hrest⟩
    | items | members => exact hsort.elim
  | lastItem _ ih =>
    cases second with
    | items items =>
      cases hsecond with
      | lastItem hitem =>
        obtain ⟨hsame, hrest⟩ := ih hitem trivial
        cases hsame
        cases hrest
        exact ⟨rfl, rfl⟩
      | item hitem _ => cases (ih hitem trivial).2
    | value | members => exact hsort.elim
  | item _ _ ihitem ihitems =>
    cases second with
    | items items =>
      cases hsecond with
      | lastItem hitem => cases (ihitem hitem trivial).2
      | item hitem hitems =>
        obtain ⟨hsame, hmore⟩ := ihitem hitem trivial
        cases hsame
        cases hmore
        obtain ⟨hsame, hrest⟩ := ihitems hitems trivial
        cases hsame
        exact ⟨rfl, hrest⟩
    | value | members => exact hsort.elim
  | lastMember _ ih =>
    cases second with
    | members members =>
      cases hsecond with
      | lastMember hvalue =>
        obtain ⟨hsame, hrest⟩ := ih hvalue trivial
        cases hsame
        cases hrest
        exact ⟨rfl, rfl⟩
      | member hvalue _ => cases (ih hvalue trivial).2
    | value | items => exact hsort.elim
  | member _ _ ihvalue ihmembers =>
    cases second with
    | members members =>
      cases hsecond with
      | lastMember hvalue => cases (ihvalue hvalue trivial).2
      | member hvalue hmembers =>
        obtain ⟨hsame, hmore⟩ := ihvalue hvalue trivial
        cases hsame
        cases hmore
        obtain ⟨hsame, hrest⟩ := ihmembers hmembers trivial
        cases hsame
        exact ⟨rfl, hrest⟩
    | value | items => exact hsort.elim

/-! ## Parts of texts -/

/-- A part of a text comes to tokens, whatever stands after it. -/
def Lexes (start : Within) (part : List Char) (toks : List Token) (last : Within) : Prop :=
  ∀ rest, tokens start (part ++ rest) = (tokens last rest).map (toks ++ ·)

section Lexes

variable {start mid last : Within} {part more : List Char} {toks others : List Token}

theorem lexes_nil (within : Within) : Lexes within [] [] within := by
  intro rest
  rw [List.nil_append]
  exact (congrFun Option.map_id _).symm

theorem lexes_of_advance {c : Char} {token : Option Token}
    (h : advance start c = some (last, token)) : Lexes start [c] token.toList last := by
  intro rest
  rw [List.singleton_append, tokens, h]
  rfl

theorem Lexes.append (h : Lexes start part toks mid) (hmore : Lexes mid more others last) :
    Lexes start (part ++ more) (toks ++ others) last := by
  intro rest
  rw [List.append_assoc, h, hmore, Option.map_map]
  refine congrFun (congrArg Option.map (funext fun after => ?_)) _
  exact (List.append_assoc _ _ _).symm

/-- A character and the part after it. -/
theorem Lexes.cons {c : Char} {token : Option Token} (hmore : Lexes mid more others last)
    (h : advance start c = some (mid, token)) :
    Lexes start (c :: more) (token.toList ++ others) last :=
  (lexes_of_advance h).append hmore

theorem Lexes.tokens_eq (h : Lexes start part toks .nothing) : tokens start part = some toks := by
  have hend := h []
  rwa [List.append_nil, show tokens .nothing [] = some [] from rfl, Option.map_some,
    List.append_nil] at hend

theorem lexes_blanks (hblank : part.all isBlank = true) : Lexes .nothing part [] .nothing := by
  induction part with
  | nil => exact lexes_nil _
  | cons c rest ih =>
    rw [List.all_cons, Bool.and_eq_true] at hblank
    have hadvance : advance .nothing c = some (.nothing, none) := if_pos hblank.1
    exact (ih hblank.2).cons hadvance

/-- A mark, with blanks after it. -/
theorem lexes_mark {c : Char} {token : Token}
    (hmark : advance .nothing c = some (.nothing, some token)) (hblank : part.all isBlank = true) :
    Lexes .nothing (c :: part) [token] .nothing :=
  (lexes_blanks hblank).cons hmark

end Lexes

/-! ## Strings -/

/-- A reader knows the code of a character below the space. -/
theorem coded?_hex : ∀ n < 0x20, (hex 4 n).length = 4 ∧ coded? (hex 4 n) = some (Char.ofNat n) := by
  decide

/-- A reader knows the letters of the short escapes. -/
theorem lookup_escapes : ∀ entry ∈ JsonString.named,
    entry.2 ≠ 'u' ∧ escapes.lookup entry.2 = some (Char.ofNat entry.1) := by
  decide

theorem lexes_code {read digits : List Char} {meant : Char} (hlength : digits.length = 4)
    (hcoded : coded? digits = some meant) :
    Lexes (.code read []) digits [] (.string (read ++ [meant])) := by
  obtain ⟨a, b, c, d, rfl⟩ := List.length_eq_four.1 hlength
  have hlast : advance (.code read [a, b, c]) d = some (.string (read ++ [meant]), none) := by
    show (coded? [a, b, c, d]).map _ = _
    rw [hcoded]
    rfl
  have hthird : advance (.code read [a, b]) c = some (.code read [a, b, c], none) := rfl
  have hsecond : advance (.code read [a]) b = some (.code read [a, b], none) := rfl
  have hfirst : advance (.code read []) a = some (.code read [a], none) := rfl
  exact ((((lexes_nil _).cons hlast).cons hthird).cons hsecond).cons hfirst

/-- A reader gets a character back from its form in a string. -/
theorem lexes_character (read : List Char) (c : Char) :
    Lexes (.string read) (JsonString.character c) [] (.string (read ++ [c])) := by
  have hescape : advance (.string read) '\\' = some (.escape read, none) := rfl
  unfold JsonString.character
  cases hnamed : JsonString.named.lookup c.toNat with
  | some letter =>
    obtain ⟨before, after, hsplit, _⟩ := List.lookup_eq_some_iff.1 hnamed
    have hmem : (c.toNat, letter) ∈ JsonString.named := by
      rw [hsplit]
      exact List.mem_append_right _ List.mem_cons_self
    obtain ⟨hne, hmeant⟩ := lookup_escapes _ hmem
    have hletter : advance (.escape read) letter = some (.string (read ++ [c]), none) := by
      rw [advance, if_neg hne, hmeant, Char.ofNat_toNat]
      rfl
    exact ((lexes_nil _).cons hletter).cons hescape
  | none =>
    by_cases hcontrol : c.toNat < 0x20
    · obtain ⟨hlength, hcoded⟩ := coded?_hex _ hcontrol
      rw [Char.ofNat_toNat] at hcoded
      have hcode : advance (.escape read) 'u' = some (.code read [], none) := rfl
      simp only [if_pos hcontrol]
      exact ((lexes_code hlength hcoded).cons hcode).cons hescape
    · have hother := List.lookup_eq_none_iff.1 hnamed
      have hquote : c ≠ '"' := by
        rintro rfl
        exact absurd (hother (0x22, '"') (by decide)) (by decide)
      have hbackslash : c ≠ '\\' := by
        rintro rfl
        exact absurd (hother (0x5C, '\\') (by decide)) (by decide)
      have hplain : advance (.string read) c = some (.string (read ++ [c]), none) := by
        rw [advance, if_neg hquote, if_neg hbackslash, if_neg hcontrol]
      simp only [if_neg hcontrol]
      exact (lexes_nil _).cons hplain

/-- A reader gets a text back from its form as a string. -/
theorem lexes_encode (text : List Char) :
    Lexes .nothing (JsonString.encode text) [.text (String.ofList text)] .nothing := by
  have hcharacters : ∀ (cs read : List Char),
      Lexes (.string read) (cs.flatMap JsonString.character) [] (.string (read ++ cs)) := by
    intro cs
    induction cs with
    | nil =>
      intro read
      rw [List.append_nil]
      exact lexes_nil _
    | cons c rest ih =>
      intro read
      have hrest := ih (read ++ [c])
      rw [List.append_assoc] at hrest
      exact (lexes_character read c).append hrest
  have hopen : advance .nothing '"' = some (.string [], none) := rfl
  have hclose : advance (.string text) '"' = some (.nothing, some (.text (String.ofList text))) :=
    rfl
  exact ((lexes_of_advance hopen).append (hcharacters text [])).append (lexes_of_advance hclose)

/-! ## Values -/

/-- The tokens stand for a value, whatever stands after them. -/
def Stands (value : Json) (toks : List Token) : Prop :=
  ∀ rest, Spells (.value value) (toks ++ rest) rest

/-- A part of a text comes to tokens of a kind, whatever stands before it and after
it. -/
def Comes (part : String) (kind : List Token → Prop) : Prop :=
  ∃ toks, Lexes .nothing part.toList toks .nothing ∧ kind toks

/-- A part of a text is a value. -/
def Prints (value : Json) (part : String) : Prop :=
  Comes part (Stands value)

/-- A text that is a value is no other. -/
theorem Prints.written_iff {value other : Json} {text : String} (h : Prints value text) :
    Written other text ↔ other = value := by
  obtain ⟨toks, hlexes, hstands⟩ := h
  have hspells := hstands []
  rw [List.append_nil] at hspells
  constructor
  · rintro ⟨others, hothers, hother⟩
    rw [hlexes.tokens_eq] at hothers
    cases hothers
    cases (hother.unique hspells trivial).1
    rfl
  · rintro rfl
    exact ⟨toks, hlexes.tokens_eq, hspells⟩

theorem lexes_word {c letter : Char} {left : List Char} {token : Token}
    (h : advance .nothing c = some (.word (letter :: left) token, none)) :
    Lexes .nothing (c :: letter :: left) [token] .nothing := by
  have hword : ∀ (letter : Char) (left : List Char),
      Lexes (.word (letter :: left) token) (letter :: left) [token] .nothing := by
    intro letter left
    induction left generalizing letter with
    | nil =>
      have hlast : advance (.word [letter] token) letter = some (.nothing, some token) := if_pos rfl
      exact lexes_of_advance hlast
    | cons next left ih =>
      have hnext : advance (.word (letter :: next :: left) token) letter =
          some (.word (next :: left) token, none) := if_pos rfl
      exact (ih next).cons hnext
  exact (hword letter left).cons h

theorem prints_null : Prints .null "null" :=
  ⟨[.null], lexes_word rfl, fun _ => .null⟩

theorem prints_boolean (truth : Bool) :
    Prints (.boolean truth) (if truth then "true" else "false") := by
  refine ⟨[.boolean truth], ?_, fun _ => .boolean⟩
  cases truth with
  | true => exact lexes_word rfl
  | false => exact lexes_word rfl

end Json

end DiskQuery.Text
