import SqlxCloudflare.Core.ErrorCode

/-!
# SqlxCloudflare.Core.ErrorKind

The kind of a database error: `kind` of `error.rs`.  A code of the table
decides; after any other code the message is searched for the phrases SQLite
begins its constraint errors with, in a fixed order, and the first one found
decides.

The search goes over all of the message, also over what the user wrote
(`firstViolation_append`), and over it after an extended code too, when the
table does not have it.
-/

namespace SqlxCloudflare

/-- The kinds of sqlx's `ErrorKind` the drivers tell apart. -/
inductive ErrorKind where
  | uniqueViolation
  | foreignKeyViolation
  | notNullViolation
  | checkViolation
  | other
deriving DecidableEq, Repr

/-! ## `kind` -/

/-- The codes that mean a kind by themselves. -/
def kindOfCode : Option String → Option ErrorKind
  | some "SQLITE_CONSTRAINT_UNIQUE" | some "SQLITE_CONSTRAINT_PRIMARYKEY" =>
      some .uniqueViolation
  | some "SQLITE_CONSTRAINT_FOREIGNKEY" => some .foreignKeyViolation
  | some "SQLITE_CONSTRAINT_NOTNULL" => some .notNullViolation
  | some "SQLITE_CONSTRAINT_CHECK" => some .checkViolation
  | _ => none

/-- The kind of error a message means: from the extended result code, failing
that from SQLite's constraint text. -/
def kind (message : String) : ErrorKind :=
  match kindOfCode (code message) with
  | some kind => kind
  | none =>
    if contains message "UNIQUE constraint failed" then .uniqueViolation
    else if contains message "FOREIGN KEY constraint failed" then .foreignKeyViolation
    else if contains message "NOT NULL constraint failed" then .notNullViolation
    else if contains message "CHECK constraint failed" then .checkViolation
    else .other

def DatabaseError.kind (error : DatabaseError) : ErrorKind := SqlxCloudflare.kind error.message

/-! ## violations -/

/-- The violations SQLite reports with a phrase of their own. -/
inductive Violation where
  | unique
  | foreignKey
  | notNull
  | check
deriving DecidableEq, Repr

namespace Violation

/-- What SQLite's text begins with. -/
def phrase : Violation → String
  | unique => "UNIQUE constraint failed"
  | foreignKey => "FOREIGN KEY constraint failed"
  | notNull => "NOT NULL constraint failed"
  | check => "CHECK constraint failed"

def kind : Violation → ErrorKind
  | unique => .uniqueViolation
  | foreignKey => .foreignKeyViolation
  | notNull => .notNullViolation
  | check => .checkViolation

/-- In the order they are looked for. -/
def all : List Violation := [unique, foreignKey, notNull, check]

/-- Those looked for before one. -/
def earlier (violation : Violation) : List Violation := all.takeWhile (· ≠ violation)

theorem kind_injective {v w : Violation} (h : v.kind = w.kind) : v = w := by
  cases v <;> cases w <;> first | rfl | exact absurd h (by decide)

theorem kind_ne_other (v : Violation) : v.kind ≠ .other := by cases v <;> decide

end Violation

/-- The violation whose phrase is found first. -/
def firstViolation (text : String) : Option Violation :=
  Violation.all.find? fun violation => contains text violation.phrase

/-- The kind of a violation, if there is one. -/
def kindOfViolation : Option Violation → ErrorKind
  | some violation => violation.kind
  | none => .other

theorem kindOfViolation_inj {v w : Option Violation} :
    kindOfViolation v = kindOfViolation w ↔ v = w := by
  constructor
  · intro h
    cases v with
    | none =>
        cases w with
        | none => rfl
        | some w => exact absurd h.symm w.kind_ne_other
    | some v =>
        cases w with
        | none => exact absurd h v.kind_ne_other
        | some w => rw [Violation.kind_injective h]
  · intro h
    rw [h]

/-- The branches of `kind`, as the first phrase found. -/
theorem kind_eq (message : String) :
    kind message = (kindOfCode (code message)).getD (kindOfViolation (firstViolation message)) := by
  rw [kind]
  cases kindOfCode (code message) with
  | some kind => rfl
  | none =>
      simp only [firstViolation, Violation.all, List.find?_cons, List.find?_nil,
        Violation.phrase, Option.getD_none]
      cases contains message "UNIQUE constraint failed" <;>
      cases contains message "FOREIGN KEY constraint failed" <;>
      cases contains message "NOT NULL constraint failed" <;>
      cases contains message "CHECK constraint failed" <;> rfl

/-! ## where a phrase can be -/

namespace Violation

variable (violation : Violation)

/-- The first letter of a phrase is in no `(extended: `. -/
theorem exists_phrase_eq : ∃ letter rest, violation.phrase.toList = letter :: rest ∧
    letter ∉ extendedMark ∧ '(' ∉ rest := by
  cases violation
  · exact ⟨'U', _, rfl, by decide, by decide⟩
  · exact ⟨'F', _, rfl, by decide, by decide⟩
  · exact ⟨'N', _, rfl, by decide, by decide⟩
  · exact ⟨'C', _, rfl, by decide, by decide⟩

theorem colon_not_mem_phrase : ':' ∉ violation.phrase.toList := by cases violation <;> decide

theorem mem_phrase : 'c' ∈ violation.phrase.toList := by cases violation <;> decide

/-- No two phrases overlap. -/
theorem phrase_infix_append_iff (text : List Char) (written : Violation) :
    violation.phrase.toList <:+: text ++ written.phrase.toList ↔
      violation.phrase.toList <:+: text ∨ violation = written := by
  by_cases h : violation = written
  · rw [h]
    simp [List.infix_append_of_infix_right List.infix_rfl]
  · have hnot : ¬violation.phrase.toList <:+: written.phrase.toList := by
      cases violation <;> cases written <;> first | decide | exact absurd rfl h
    have hseam : ∀ v ∈ violation.phrase.toList.tails, v ≠ [] → ¬v <+: written.phrase.toList := by
      cases violation <;> cases written <;> first | decide | exact absurd rfl h
    rw [infix_append_iff_of_seam hseam]
    simp [h, hnot]

/-- No phrase begins with the space after a colon. -/
theorem phrase_infix_cons_iff (text : List Char) :
    violation.phrase.toList <:+: ' ' :: text ↔ violation.phrase.toList <:+: text := by
  obtain ⟨letter, rest, hphrase, hletter, _⟩ := violation.exists_phrase_eq
  have hspace : letter ∉ [' '] := by
    intro h
    rw [List.mem_singleton.mp h] at hletter
    exact hletter (by decide)
  rw [hphrase, ← List.singleton_append]
  exact infix_append_iff_of_head_not_mem hspace

/-- A phrase in two texts joined by a colon is in one of them. -/
theorem contains_append_colon (text rest : String) :
    contains (text ++ ": " ++ rest) violation.phrase =
      (contains text violation.phrase || contains rest violation.phrase) := by
  have htext : (text ++ ": " ++ rest).toList = text.toList ++ ':' :: ' ' :: rest.toList := by simp
  simp only [contains, htext, infix_append_cons_iff violation.colon_not_mem_phrase,
    phrase_infix_cons_iff, Bool.decide_or]

/-- The code at the end holds no phrase. -/
theorem contains_append_code (text : String) {suffix : String} (hsuffix : 'c' ∉ suffix.toList) :
    contains (text ++ ": " ++ suffix) violation.phrase = contains text violation.phrase := by
  have hnot : contains suffix violation.phrase = false :=
    decide_eq_false (not_infix_of_not_mem violation.mem_phrase hsuffix)
  rw [contains_append_colon, hnot, Bool.or_false]

/-- What SQLite begins its text with, and the text after it, hold their own
phrases and no other. -/
theorem contains_append_phrase {front : String} (hfront : contains front violation.phrase = false)
    (written : Violation) (rest : String) :
    contains (front ++ written.phrase ++ ": " ++ rest) violation.phrase =
      (decide (violation = written) || contains rest violation.phrase) := by
  have hwritten : contains (front ++ written.phrase) violation.phrase =
      decide (violation = written) := by
    simp only [contains, String.toList_append, phrase_infix_append_iff, Bool.decide_or]
    rw [contains] at hfront
    rw [hfront, Bool.false_or]
  rw [contains_append_colon, hwritten]

end Violation

/-- The first phrase is the text's, whatever the code. -/
theorem firstViolation_append (text : String) {suffix : String} (hsuffix : 'c' ∉ suffix.toList) :
    firstViolation (text ++ ": " ++ suffix) = firstViolation text := by
  simp only [firstViolation, Violation.contains_append_code _ text hsuffix]

/-- An element is found first when none of those before it would do. -/
theorem find?_eq_some_iff_takeWhile {α : Type} [DecidableEq α] {p : α → Bool} {a : α}
    {l : List α} (ha : a ∈ l) (hp : p a = true) :
    l.find? p = some a ↔ ∀ b ∈ l.takeWhile (· ≠ a), p b = false := by
  induction l with
  | nil => cases ha
  | cons b l ih =>
      by_cases hb : b = a
      · simp [hb, hp]
      · have hmem : a ∈ l := (List.mem_cons.mp ha).resolve_left (Ne.symm hb)
        rw [List.takeWhile_cons_of_pos (by simpa using hb), List.forall_mem_cons, ← ih hmem,
          List.find?_cons]
        cases p b <;> simp [hb]

/-- What SQLite wrote is found first when the text after it has none of the
phrases that are looked for earlier. -/
theorem firstViolation_eq_some_iff {front : String}
    (hfront : ∀ violation : Violation, contains front violation.phrase = false)
    (written : Violation) (rest : String) :
    firstViolation (front ++ written.phrase ++ ": " ++ rest) = some written ↔
      ∀ violation ∈ written.earlier, contains rest violation.phrase = false := by
  have hmem : written ∈ Violation.all := by cases written <;> decide
  simp only [firstViolation, Violation.contains_append_phrase _ (hfront _) written rest]
  rw [find?_eq_some_iff_takeWhile hmem (by simp)]
  refine forall₂_congr fun violation hearlier => ?_
  have hne : violation ≠ written := by simpa using List.mem_takeWhile_imp hearlier
  simp [hne]

/-- A code has no small letter. -/
theorem ResultCode.not_mem_text (code : ResultCode) : 'c' ∉ code.text.toList := by
  have hword : ∀ word : CodeWord, 'c' ∉ word.text.toList := fun word => word.not_mem (by decide)
  obtain ⟨primary, extended⟩ := code
  cases extended with
  | none => exact hword primary
  | some extended => simp [ResultCode.text, hword]

/-- What SQLite begins its text with embeds no word. -/
theorem embeds_append_phrase_iff {front : String} (hfront : ¬extendedMark <:+: front.toList)
    (written : Violation) (rest : String) {word : String} :
    Embeds (front ++ written.phrase ++ ": " ++ rest) word ↔ Embeds rest word := by
  have htext : (front ++ written.phrase ++ ": " ++ rest).toList =
      (front.toList ++ written.phrase.toList ++ [':']) ++ ' ' :: rest.toList := by simp
  have hclosed : openMark <:+ (front ++ written.phrase ++ ": " ++ rest).toList ↔
      openMark <:+ rest.toList := by
    rw [htext]
    exact suffix_append_cons_iff (by decide)
  have hword : extendedWord (front ++ written.phrase ++ ": " ++ rest).toList =
      extendedWord rest.toList := by
    obtain ⟨letter, phrase, hphrase, hletter, hopen⟩ := written.exists_phrase_eq
    have hmark : extendedMark = '(' :: "extended: ".toList := by decide
    have hmiddle : '(' ∉ phrase ++ [':', ' '] := by simp [hopen]
    have hsplit : (front ++ written.phrase ++ ": " ++ rest).toList =
        front.toList ++ letter :: (phrase ++ [':', ' '] ++ rest.toList) := by simp [hphrase]
    have hfull : (front ++ written.phrase ++ ": " ++ rest).toList =
        (front ++ written.phrase ++ ": ").toList ++ rest.toList := String.toList_append
    rw [hfull]
    refine extendedWord_append_right fun h => ?_
    rw [← hfull, hsplit, infix_append_cons_iff hletter, or_iff_right hfront, hmark,
      infix_append_iff_of_head_not_mem hmiddle] at h
    exact h
  rw [embeds_iff, embeds_iff, hclosed, hword]

/-! ## the kind of a constraint error -/

/-- After an extended code only the table and the text decide. -/
theorem kind_of_extended (text : String) (primary extended : CodeWord) :
    kind (text ++ ": " ++ (ResultCode.mk primary (some extended)).text) =
      (kindOfCode (some extended.text)).getD (kindOfViolation (firstViolation text)) := by
  rw [kind_eq, code_of_extended, firstViolation_append text (ResultCode.not_mem_text _)]

/-- A word the text embeds decides for a primary code. -/
theorem kind_of_embeds {text word : String} (h : Embeds text word) (primary : CodeWord) :
    kind (text ++ ": " ++ primary.text) =
      (kindOfCode (some word)).getD (kindOfViolation (firstViolation text)) := by
  have hsmall : 'c' ∉ primary.text.toList := primary.not_mem (by decide)
  rw [kind_eq, code_of_embeds h, firstViolation_append text hsmall]

theorem kind_of_not_embeds {text : String} (h : ∀ word, ¬Embeds text word) (primary : CodeWord) :
    kind (text ++ ": " ++ primary.text) =
      (kindOfCode (some primary.text)).getD (kindOfViolation (firstViolation text)) := by
  have hsmall : 'c' ∉ primary.text.toList := primary.not_mem (by decide)
  rw [kind_eq, code_of_not_embeds h, firstViolation_append text hsmall]

/-- The primary code of every constraint error. -/
def constraintCode : CodeWord where
  text := "SQLITE_CONSTRAINT"
  begins := by decide
  longer := by decide
  chars := List.all_eq_true.mp rfl
  once := by decide

/-- What SQLite wrote decides for the primary code, when the rest of the text
does not take its place. -/
theorem kind_append_phrase_iff {front : String}
    (hfront : ∀ violation : Violation, contains front violation.phrase = false)
    (hmark : contains front "(extended: " = false) (written : Violation) (rest : String) :
    kind (front ++ written.phrase ++ ": " ++ rest ++ ": " ++ constraintCode.text) =
        written.kind ↔
      (∃ word, Embeds rest word ∧ kindOfCode (some word) = some written.kind) ∨
        (∀ word, Embeds rest word → kindOfCode (some word) = none) ∧
          ∀ violation ∈ written.earlier, contains rest violation.phrase = false := by
  have hmark' : ¬extendedMark <:+: front.toList := of_decide_eq_false hmark
  have hembeds : ∀ word, Embeds (front ++ written.phrase ++ ": " ++ rest) word ↔
      Embeds rest word := fun _ => embeds_append_phrase_iff hmark' written rest
  have hfirst := firstViolation_eq_some_iff hfront written rest
  have hkind : kindOfViolation (some written) = written.kind := rfl
  rw [← hfirst, ← kindOfViolation_inj, hkind]
  by_cases h : ∃ word, Embeds rest word
  · obtain ⟨word, hword⟩ := h
    have hall : ∀ P : String → Prop, (∀ word', Embeds rest word' → P word') ↔ P word :=
      fun P => ⟨fun h => h word hword, fun h word' hword' => hword'.unique hword ▸ h⟩
    have hex : ∀ P : String → Prop, (∃ word', Embeds rest word' ∧ P word') ↔ P word :=
      fun P => ⟨fun ⟨word', hword', h⟩ => hword'.unique hword ▸ h, fun h => ⟨word, hword, h⟩⟩
    rw [kind_of_embeds ((hembeds word).mpr hword), hall, hex]
    cases kindOfCode (some word) <;> simp
  · have hnone := not_exists.mp h
    have hcode : kindOfCode (some constraintCode.text) = none := rfl
    rw [kind_of_not_embeds fun word hword => hnone word ((hembeds word).mp hword), hcode]
    simp [hnone]

/-- **Main theorem**: when the user's text does not matter for the kind.
Before an extended code, exactly when the table has the code or the phrases
found are the same.  After a phrase of SQLite's own and before the primary
code, exactly when the text embeds a code of the same kind, or none of the
table and no phrase that is looked for earlier. -/
theorem kind_iff (primary extended : CodeWord) (text text' : String) (written : Violation)
    (front rest : String) :
    (DatabaseError.kind ⟨text ++ ": " ++ (ResultCode.mk primary (some extended)).text⟩ =
        DatabaseError.kind ⟨text' ++ ": " ++ (ResultCode.mk primary (some extended)).text⟩ ↔
      (kindOfCode (some extended.text)).isSome ∨ firstViolation text = firstViolation text') ∧
    ((∀ violation : Violation, contains front violation.phrase = false) →
      contains front "(extended: " = false →
        (DatabaseError.kind
            ⟨front ++ written.phrase ++ ": " ++ rest ++ ": " ++ "SQLITE_CONSTRAINT"⟩ =
            written.kind ↔
          (∃ word, Embeds rest word ∧ kindOfCode (some word) = some written.kind) ∨
            (∀ word, Embeds rest word → kindOfCode (some word) = none) ∧
              ∀ violation ∈ written.earlier, contains rest violation.phrase = false)) := by
  constructor
  · rw [DatabaseError.kind, DatabaseError.kind, kind_of_extended, kind_of_extended]
    cases kindOfCode (some extended.text) with
    | some kind => simp
    | none => simp [kindOfViolation_inj]
  · intro hfront hmark
    exact kind_append_phrase_iff hfront hmark written rest

/-- A plain CHECK expression. -/
theorem kind_iff_check :
    DatabaseError.kind
      ⟨"D1_ERROR: " ++ Violation.check.phrase ++ ": " ++ "age >= 0" ++ ": " ++
        "SQLITE_CONSTRAINT"⟩ = .checkViolation := by
  have hnone := not_embeds_of_not_infix (by decide : ¬extendedMark <:+: "age >= 0".toList)
  have hfront : ∀ violation : Violation, contains "D1_ERROR: " violation.phrase = false := by
    intro violation
    cases violation <;> decide
  have hiff := kind_iff constraintCode constraintCode "" "" .check "D1_ERROR: " "age >= 0"
  exact (hiff.2 hfront (by decide)).mpr
    (.inr ⟨fun word hword => absurd hword (hnone word), by decide⟩)

/-- Neither part holds of every text: a trigger's message is searched like
SQLite's own, and so is a CHECK expression. -/
theorem not_kind_independent :
    (¬∀ (primary extended : CodeWord) (text text' : String),
      DatabaseError.kind ⟨text ++ ": " ++ (ResultCode.mk primary (some extended)).text⟩ =
        DatabaseError.kind ⟨text' ++ ": " ++ (ResultCode.mk primary (some extended)).text⟩) ∧
    ¬∀ (written : Violation) (front rest : String), written ≠ .foreignKey →
      (∀ violation : Violation, contains front violation.phrase = false) →
        contains front "(extended: " = false →
          DatabaseError.kind
            ⟨front ++ written.phrase ++ ": " ++ rest ++ ": " ++ "SQLITE_CONSTRAINT"⟩ =
            written.kind := by
  constructor
  · intro h
    let trigger : CodeWord :=
      ⟨"SQLITE_CONSTRAINT_TRIGGER", by decide, by decide, List.all_eq_true.mp rfl, by decide⟩
    have hkind := h constraintCode trigger "UNIQUE constraint failed" "no"
    rw [DatabaseError.kind, DatabaseError.kind, kind_of_extended, kind_of_extended] at hkind
    exact absurd hkind (by decide)
  · intro h
    have hfront : ∀ violation : Violation, contains "" violation.phrase = false := by
      intro violation
      cases violation <;> decide
    have hkind := h .check "" "note <> 'UNIQUE constraint failed'" (by decide) hfront (by decide)
    have hnone := not_embeds_of_not_infix
      (by decide : ¬extendedMark <:+: "note <> 'UNIQUE constraint failed'".toList)
    have hiff := kind_append_phrase_iff hfront (by decide) .check
      "note <> 'UNIQUE constraint failed'"
    rcases hiff.mp hkind with ⟨word, hword, _⟩ | ⟨_, hrest⟩
    · exact hnone word hword
    · exact absurd (hrest .unique (by decide)) (by decide)

end SqlxCloudflare
