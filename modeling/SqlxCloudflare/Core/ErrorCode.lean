import Mathlib.Data.List.TakeWhile
import SqlxCloudflare.Core.Js
import SqlxCloudflare.Search

/-!
# SqlxCloudflare.Core.ErrorCode

The result code at the end of SQLite's text: `code` of `error.rs`.  It looks
for two marks from the end, `(extended: ` and then `SQLITE_`, and reads the
word that follows.

The text in front of the code quotes the user's SQL, and may hold either mark.
With an extended code the last `(extended: ` is SQLite's own
(`code_of_extended`).  Without one it is the text's, if it has any: what comes
after it (`Embeds`) is then taken for the code.
-/

namespace SqlxCloudflare

/-! ## `code` -/

/-- The characters of a result code's name. -/
def isCodeChar (c : Char) : Bool := c.isUpper || c.isDigit || c == '_'

def extendedMark : List Char := "(extended: ".toList

def codeMark : List Char := "SQLITE_".toList

/-- The word after the last `(extended: `. -/
def extendedWord (message : List Char) : Option (List Char) :=
  match rsplitOnce extendedMark message with
  | some (_, rest) =>
    let word := rest.takeWhile isCodeChar
    if 0 < word.length then some word else none
  | none => none

/-- The last `SQLITE_*` word. -/
def lastWord (message : List Char) : Option (List Char) := do
  let start ← rfind codeMark message
  return (message.drop start).takeWhile isCodeChar

/-- The result code at the end of a message: the `extended:` one if there is
one, else the last `SQLITE_*` word. -/
def code (message : String) : Option String :=
  match extendedWord message.toList with
  | some word => some (String.ofList word)
  | none => (lastWord message.toList).map String.ofList

/-- SQLite's result code by name. -/
def DatabaseError.code (error : DatabaseError) : Option String :=
  SqlxCloudflare.code error.message

/-! ## the codes SQLite ends its text with -/

/-- The name of a result code: `SQLITE_` and more, with no second `SQLITE_`
inside. -/
structure CodeWord where
  text : String
  begins : codeMark <+: text.toList
  longer : codeMark.length < text.toList.length
  chars : ∀ c ∈ text.toList, isCodeChar c = true
  once : ¬codeMark <:+: text.toList.tail

/-- A primary code, and the extended one when there is one. -/
structure ResultCode where
  primary : CodeWord
  extended : Option CodeWord

namespace ResultCode

/-- As SQLite writes it. -/
def text (code : ResultCode) : String :=
  match code.extended with
  | none => code.primary.text
  | some extended => code.primary.text ++ " (extended: " ++ extended.text ++ ")"

/-- The code that `code` is to find. -/
def name (code : ResultCode) : String := (code.extended.getD code.primary).text

end ResultCode

namespace CodeWord

variable (word : CodeWord)

theorem not_mem {c : Char} (hc : isCodeChar c = false) : c ∉ word.text.toList := by
  intro h
  rw [word.chars c h] at hc
  cases hc

/-- The word is read up to the next character that is not its own. -/
theorem takeWhile_append {c : Char} (hc : isCodeChar c = false) (rest : List Char) :
    (word.text.toList ++ c :: rest).takeWhile isCodeChar = word.text.toList := by
  rw [List.takeWhile_append_of_pos word.chars, List.takeWhile_cons_of_neg (by simp [hc]),
    List.append_nil]

theorem takeWhile_self : word.text.toList.takeWhile isCodeChar = word.text.toList :=
  List.takeWhile_eq_self_iff.mpr word.chars

theorem length_pos : 0 < word.text.toList.length := Nat.zero_lt_of_lt word.longer

end CodeWord

/-- A word is not read past a character that is not its own. -/
theorem takeWhile_append_cons {c : Char} (hc : isCodeChar c = false) (text rest : List Char) :
    (text ++ c :: rest).takeWhile isCodeChar = text.takeWhile isCodeChar := by
  induction text with
  | nil => simp [hc]
  | cons b text ih =>
      rw [List.cons_append, List.takeWhile_cons, List.takeWhile_cons, ih]

/-! ## the marks -/

/-- Its first letter does not come again, so the last `(extended: ` is the one
that no other follows. -/
theorem rsplitOnce_extendedMark_iff {text before after : List Char} :
    rsplitOnce extendedMark text = some (before, after) ↔
      text = before ++ extendedMark ++ after ∧ ¬extendedMark <:+: after := by
  have hmark : extendedMark = '(' :: "extended: ".toList := by decide
  rw [hmark]
  exact rsplitOnce_eq_some_iff (by decide)

theorem rsplitOnce_codeMark_iff {text before after : List Char} :
    rsplitOnce codeMark text = some (before, after) ↔
      text = before ++ codeMark ++ after ∧ ¬codeMark <:+: after := by
  have hmark : codeMark = 'S' :: "QLITE_".toList := by decide
  rw [hmark]
  exact rsplitOnce_eq_some_iff (by decide)

/-- A text with no parenthesis to open has no `(extended: `. -/
theorem not_infix_extendedMark {text : List Char} (h : '(' ∉ text) : ¬extendedMark <:+: text :=
  not_infix_of_not_mem (by decide : '(' ∈ extendedMark) h

/-! ## an extended code -/

/-- SQLite's own `(extended: ` is the last: nothing after it has a
parenthesis to open. -/
theorem extendedWord_of_extended (text : List Char) (word : CodeWord) :
    extendedWord (text ++ extendedMark ++ (word.text.toList ++ [')'])) = some word.text.toList := by
  have hopen : '(' ∉ word.text.toList := word.not_mem (by decide)
  have hnot : ¬extendedMark <:+: word.text.toList ++ [')'] :=
    not_infix_extendedMark (by simp [hopen])
  have hsplit : rsplitOnce extendedMark (text ++ extendedMark ++ (word.text.toList ++ [')'])) =
      some (text, word.text.toList ++ [')']) :=
    rsplitOnce_extendedMark_iff.mpr ⟨rfl, hnot⟩
  rw [extendedWord, hsplit]
  simp only [word.takeWhile_append (by decide : isCodeChar ')' = false), word.length_pos, if_true]

/-- Whatever the text before it says. -/
theorem code_of_extended (text : String) (primary extended : CodeWord) :
    code (text ++ ": " ++ (ResultCode.mk primary (some extended)).text) = some extended.text := by
  have hmessage : (text ++ ": " ++ (ResultCode.mk primary (some extended)).text).toList =
      (text ++ ": " ++ primary.text ++ " ").toList ++ extendedMark ++
        (extended.text.toList ++ [')']) := by
    have hopen : " (extended: ".toList = " ".toList ++ extendedMark := by decide
    have hclose : ")".toList = [')'] := by decide
    simp only [ResultCode.text, String.toList_append, List.append_assoc, hopen, hclose]
  rw [code, hmessage, extendedWord_of_extended]
  simp

/-! ## a primary code -/

/-- `(extended: ` without its end, which is also how the text is joined to the
code. -/
def openMark : List Char := "(extended".toList

theorem extendedMark_eq : extendedMark = openMark ++ [':', ' '] := by decide

/-- A mark is in the text in front of the code, or begins there and ends with
the colon before the code. -/
theorem extendedMark_infix_iff {text rest : List Char} (hrest : '(' ∉ rest) :
    extendedMark <:+: text ++ ':' :: ' ' :: rest ↔
      extendedMark <:+: text ∨ openMark <:+ text := by
  constructor
  · intro h
    rcases List.infix_append_iff_ne_nil.mp h with h | h | ⟨u, v, _, hv, huv, hsuffix, hprefix⟩
    · exact .inl h
    · exact absurd h (not_infix_extendedMark (by simp [hrest]))
    · have hhead : v.head? = some ':' := by
        cases v with
        | nil => exact absurd rfl hv
        | cons c v => rw [List.head?_cons, (List.cons_prefix_cons.mp hprefix).1]
      have htails : ∀ v ∈ extendedMark.tails, v.head? = some ':' → v = [':', ' '] := by decide
      have hvmark : v = [':', ' '] := htails v (by rw [List.mem_tails, huv]; simp) hhead
      rw [hvmark, extendedMark_eq, List.append_cancel_right_eq] at huv
      exact .inr (huv ▸ hsuffix)
  · intro h
    rcases h with h | ⟨before, rfl⟩
    · exact List.infix_append_of_infix_left h
    · exact ⟨before, rest, by simp [extendedMark_eq]⟩

/-- The text in front of the code changes neither mark: a `(extended: ` it does
not end with the beginning of stays the last. -/
theorem rsplitOnce_extendedMark_append {text rest : List Char} (hopen : ¬openMark <:+ text)
    (hrest : '(' ∉ rest) :
    rsplitOnce extendedMark (text ++ ':' :: ' ' :: rest) =
      (rsplitOnce extendedMark text).map fun split => (split.1, split.2 ++ ':' :: ' ' :: rest) := by
  cases hsplit : rsplitOnce extendedMark text with
  | none =>
      have hnot := rsplitOnce_eq_none_iff.mp hsplit
      rw [Option.map_none, rsplitOnce_eq_none_iff, extendedMark_infix_iff hrest]
      exact not_or.mpr ⟨hnot, hopen⟩
  | some split =>
      obtain ⟨before, after⟩ := split
      obtain ⟨htext, hlast⟩ := rsplitOnce_extendedMark_iff.mp hsplit
      have hafter : ¬openMark <:+ after := by
        intro h
        rw [htext] at hopen
        exact hopen (h.trans (List.suffix_append _ _))
      rw [Option.map_some, rsplitOnce_extendedMark_iff, extendedMark_infix_iff hrest]
      exact ⟨by rw [htext, List.append_assoc _ after], not_or.mpr ⟨hlast, hafter⟩⟩

theorem extendedWord_append {text rest : List Char} (hopen : ¬openMark <:+ text)
    (hrest : '(' ∉ rest) :
    extendedWord (text ++ ':' :: ' ' :: rest) = extendedWord text := by
  rw [extendedWord, extendedWord, rsplitOnce_extendedMark_append hopen hrest]
  cases rsplitOnce extendedMark text with
  | none => rfl
  | some split =>
      simp only [Option.map_some,
        takeWhile_append_cons (by decide : isCodeChar ':' = false) split.2 (' ' :: rest)]

/-- The word after the last mark, as a fact about the text. -/
theorem extendedWord_eq_some_iff {text word : List Char} :
    extendedWord text = some word ↔
      word ≠ [] ∧ ∃ before rest, text = before ++ extendedMark ++ rest ∧
        ¬extendedMark <:+: rest ∧ word = rest.takeWhile isCodeChar := by
  rw [extendedWord]
  constructor
  · intro h
    cases hsplit : rsplitOnce extendedMark text with
    | none => simp [hsplit] at h
    | some split =>
        obtain ⟨before, rest⟩ := split
        obtain ⟨htext, hlast⟩ := rsplitOnce_extendedMark_iff.mp hsplit
        simp only [hsplit, Option.ite_none_right_eq_some, Option.some.injEq] at h
        obtain ⟨hpos, hword⟩ := h
        rw [hword] at hpos
        exact ⟨List.length_pos_iff.mp hpos, before, rest, htext, hlast, hword.symm⟩
  · intro ⟨hne, before, rest, htext, hlast, hword⟩
    rw [rsplitOnce_extendedMark_iff.mpr ⟨htext, hlast⟩]
    simp only [← hword, List.length_pos_iff.mpr hne, if_true]

/-- Text in front that brings no mark changes nothing. -/
theorem extendedWord_append_right {front text : List Char}
    (hfront : extendedMark <:+: front ++ text → extendedMark <:+: text) :
    extendedWord (front ++ text) = extendedWord text := by
  have hsplit : rsplitOnce extendedMark (front ++ text) =
      (rsplitOnce extendedMark text).map fun split => (front ++ split.1, split.2) := by
    have hmark : extendedMark = '(' :: "extended: ".toList := by decide
    rw [hmark] at hfront ⊢
    exact rsplitOnce_append (by decide) hfront
  rw [extendedWord, extendedWord, hsplit]
  cases rsplitOnce extendedMark text <;> rfl

/-- The last `SQLITE_` of a text that ends with a code is the code's own. -/
theorem lastWord_append (text : List Char) (word : CodeWord) :
    lastWord (text ++ word.text.toList) = some word.text.toList := by
  obtain ⟨rest, hrest⟩ := word.begins
  have honce : ¬codeMark <:+: rest := by
    intro h
    have htail : word.text.toList.tail = "QLITE_".toList ++ rest := by rw [← hrest]; rfl
    exact word.once (htail ▸ List.infix_append_of_infix_right h)
  have hsplit : rsplitOnce codeMark (text ++ word.text.toList) = some (text, rest) :=
    rsplitOnce_codeMark_iff.mpr ⟨by rw [← hrest, List.append_assoc], honce⟩
  simp only [lastWord, rfind, hsplit, Option.map_some, Option.bind_eq_bind, Option.bind_some,
    List.drop_left, word.takeWhile_self]
  rfl

/-- The text in front of a code holds a word that is taken for an extended
code: the one after its last `(extended: `. -/
structure Embeds (text word : String) : Prop where
  ne_empty : word ≠ ""
  closed : ¬openMark <:+ text.toList
  last : ∃ before rest, text.toList = before ++ extendedMark ++ rest ∧
    ¬extendedMark <:+: rest ∧ word.toList = rest.takeWhile isCodeChar

theorem embeds_iff {text word : String} :
    Embeds text word ↔
      ¬openMark <:+ text.toList ∧ extendedWord text.toList = some word.toList := by
  have hempty : word = "" ↔ word.toList = [] := by simp
  rw [extendedWord_eq_some_iff]
  constructor
  · intro h
    exact ⟨h.closed, hempty.not.mp h.ne_empty, h.last⟩
  · intro ⟨hclosed, hne, hlast⟩
    exact ⟨hempty.not.mpr hne, hclosed, hlast⟩

theorem Embeds.unique {text word word' : String} (h : Embeds text word) (h' : Embeds text word') :
    word = word' := by
  have hword := (embeds_iff.mp h).2
  rw [(embeds_iff.mp h').2] at hword
  exact String.toList_inj.mp (Option.some.inj hword).symm

/-- A word the text embeds is taken for the code. -/
theorem code_of_embeds {text word : String} (h : Embeds text word) (primary : CodeWord) :
    code (text ++ ": " ++ primary.text) = some word := by
  obtain ⟨hclosed, hword⟩ := embeds_iff.mp h
  have hmessage : (text ++ ": " ++ primary.text).toList =
      text.toList ++ ':' :: ' ' :: primary.text.toList := by simp
  rw [code, hmessage, extendedWord_append hclosed (primary.not_mem (by decide)), hword]
  simp

/-- A text that embeds none leaves the code to be found. -/
theorem code_of_not_embeds {text : String} (h : ∀ word, ¬Embeds text word) (primary : CodeWord) :
    code (text ++ ": " ++ primary.text) = some primary.text := by
  have hmessage : (text ++ ": " ++ primary.text).toList =
      text.toList ++ ':' :: ' ' :: primary.text.toList := by simp
  have hparen : '(' ∉ primary.text.toList := primary.not_mem (by decide)
  by_cases hopen : openMark <:+ text.toList
  · obtain ⟨before, hbefore⟩ := hopen
    have hword : extendedWord (text.toList ++ ':' :: ' ' :: primary.text.toList) =
        some primary.text.toList :=
      extendedWord_eq_some_iff.mpr ⟨List.length_pos_iff.mp primary.length_pos, before,
        primary.text.toList, by rw [← hbefore, extendedMark_eq]; simp,
        not_infix_extendedMark hparen, primary.takeWhile_self.symm⟩
    rw [code, hmessage, hword]
    simp
  · have hnone : extendedWord text.toList = none := by
      cases hword : extendedWord text.toList with
      | none => rfl
      | some word =>
          exact absurd (embeds_iff.mpr ⟨hopen, by simpa using hword⟩) (h (String.ofList word))
    have hlast := lastWord_append (text ++ ": ").toList primary
    rw [← String.toList_append, hmessage] at hlast
    rw [code, hmessage, extendedWord_append hopen hparen, hnone]
    simp [hlast]

/-- A text without the mark embeds no word. -/
theorem not_embeds_of_not_infix {text : String} (h : ¬extendedMark <:+: text.toList)
    (word : String) : ¬Embeds text word := by
  intro hembeds
  obtain ⟨before, rest, htext, _⟩ := hembeds.last
  exact h ⟨before, rest, htext.symm⟩

/-! ## thrown errors -/

/-- The thrown errors that carry a text: as the message, with nothing behind
it, or as the cause's message, which the error's own either ends with or does
not quote.  With each goes what the `DatabaseError` has in front of the text. -/
inductive Thrown (text : String) : JsValue → String → Prop
  | plain (cause : JsValue) (hcause : ∀ message inner, cause ≠ .error message inner) :
      Thrown text (.error text cause) ""
  | quoted (front : String) (inner : JsValue) :
      Thrown text (.error (front ++ text) (.error text inner)) front
  | apart {message : String} (inner : JsValue) (hmessage : contains message text = false) :
      Thrown text (.error message (.error text inner)) (message ++ ": ")

/-- The text stands at the end of the message. -/
theorem databaseError_of_thrown [JsDebug] {text front : String} {error : JsValue}
    (h : Thrown text error front) : databaseError error = .database ⟨front ++ text⟩ := by
  cases h with
  | plain cause hcause =>
      rw [String.empty_append]
      cases cause with
      | error message inner => exact absurd rfl (hcause message inner)
      | _ => rfl
  | quoted front inner =>
      have hcontains : contains (front ++ text) text = true := by
        rw [contains, decide_eq_true_eq, String.toList_append]
        exact List.infix_append_of_infix_right List.infix_rfl
      rw [databaseError, if_pos hcontains]
  | apart inner hmessage =>
      rw [databaseError, hmessage]
      rfl

/-- **Main theorem**: the code of a thrown error is the one SQLite ended its
text with, unless that is a primary code and the text in front of it embeds
another word. -/
theorem code_of_thrown_iff [JsDebug] (text : String) (suffix : ResultCode) {error : JsValue}
    {front : String} (h : Thrown (text ++ ": " ++ suffix.text) error front) :
    ∃ d, databaseError error = .database d ∧
      (d.code = some suffix.name ↔
        suffix.extended.isSome ∨
          ∀ word, Embeds (front ++ text) word → word = suffix.primary.text) := by
  obtain ⟨primary, extended⟩ := suffix
  refine ⟨_, databaseError_of_thrown h, ?_⟩
  rw [DatabaseError.code]
  simp only [← String.append_assoc]
  cases extended with
  | some extended =>
      have hcode := code_of_extended (front ++ text) primary extended
      simp [hcode, ResultCode.name]
  | none =>
      have hname : (ResultCode.mk primary none).name = primary.text := rfl
      have htext : (ResultCode.mk primary none).text = primary.text := rfl
      simp only [hname, htext, Option.isSome_none, Bool.false_eq_true, false_or]
      by_cases hembeds : ∃ word, Embeds (front ++ text) word
      · obtain ⟨word, hword⟩ := hembeds
        rw [code_of_embeds hword, Option.some.injEq]
        constructor
        · intro heq word' hword'
          rw [hword'.unique hword, heq]
        · intro hall
          exact hall word hword
      · have hnone := not_exists.mp hembeds
        rw [code_of_not_embeds hnone]
        simp [hnone]

/-- The primary code of the text workerd quotes. -/
theorem code_of_thrown_quoted :
    letI := JsDebug.describing
    ∃ d, databaseError (.error "D1_ERROR: near \"SELEC\": syntax error: SQLITE_ERROR"
        (.error "near \"SELEC\": syntax error: SQLITE_ERROR" .undefined)) = .database d ∧
      d.code = some "SQLITE_ERROR" := by
  let := JsDebug.describing
  let suffix : ResultCode :=
    ⟨⟨"SQLITE_ERROR", by decide, by decide, List.all_eq_true.mp rfl, by decide⟩, none⟩
  obtain ⟨d, hd, hcode⟩ := code_of_thrown_iff "near \"SELEC\": syntax error" suffix
    (.quoted "D1_ERROR: " .undefined)
  have hnone := not_embeds_of_not_infix
    (by decide : ¬extendedMark <:+: ("D1_ERROR: " ++ "near \"SELEC\": syntax error").toList)
  exact ⟨d, hd, hcode.mpr (.inr fun word hword => absurd hword (hnone word))⟩

/-- Not for every text: a quoted name can embed a word. -/
theorem not_code_of_thrown :
    letI := JsDebug.describing
    ¬∀ (text : String) (suffix : ResultCode) (error : JsValue) (front : String),
      Thrown (text ++ ": " ++ suffix.text) error front →
        ∃ d, databaseError error = .database d ∧ d.code = some suffix.name := by
  let := JsDebug.describing
  intro h
  let suffix : ResultCode :=
    ⟨⟨"SQLITE_ERROR", by decide, by decide, List.all_eq_true.mp rfl, by decide⟩, none⟩
  obtain ⟨d, hd, hcode⟩ := h "no such table: (extended: FOO)" suffix _ _
    (.plain .undefined (by simp))
  cases hd
  exact absurd hcode (by decide)

end SqlxCloudflare
