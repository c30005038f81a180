import SiteIndex.Index.Summary
import SiteIndex.Proofs.Text.Utf8

/-!
# Summaries are read as they were written

A text that is written as a JSON string is read as that text, whatever stands behind it
(`stringBody?_quoted`). The four fields of a summary are read one after the other, so that a
stored summary is the one that was stored (`Summary.decode_encode`).
-/

namespace SiteIndex.Json.Reader

/-! ## Strings -/

/-- The escape of a character below the space gives its number. -/
theorem unit?_escape {n : Nat} (h : n < 32) :
    unit? '0' '0' (Nat.digitChar (n / 16)) (Nat.digitChar (n % 16)) = some n := by
  revert n
  decide

/-- Numbers below the space are no surrogates. -/
theorem not_surrogate {n : Nat} (h : n < 32) :
    isLowSurrogate n = false ∧ isHighSurrogate n = false := by
  unfold isLowSurrogate isHighSurrogate
  constructor <;> simp <;> omega

/-- A character is read from its escaped form. -/
theorem stringBody?_escapeChar (c : Char) (rest : List Char) :
    stringBody? (escapeChar c ++ rest) = push c (stringBody? rest) := by
  unfold escapeChar
  iterate 7
    split
    case isTrue h =>
      rw [h]
      rfl
  split
  case isTrue hcontrol =>
    have hlt : c.toNat < 32 := hcontrol
    obtain ⟨hlow, hhigh⟩ := not_surrogate hlt
    simp only [List.cons_append, List.nil_append, stringBody?, unit?_escape hlt, hlow, hhigh,
      Bool.false_eq_true, if_false, Char.ofNat_toNat]
  case isFalse _ hbackslash _ _ _ _ _ hcontrol => simp [stringBody?, hbackslash, hcontrol]

/-- A text is read from its quoted form. -/
theorem stringBody?_quoted (text : List Char) (rest : List Char) :
    stringBody? (text.flatMap escapeChar ++ '"' :: rest) = some (text, rest) := by
  induction text with
  | nil => rfl
  | cons c text ih =>
      rw [List.flatMap_cons, List.append_assoc, stringBody?_escapeChar, ih]
      rfl

/-- A quoted text is a value. -/
theorem value?_quoted (depth fuel : Nat) (s : String) (rest : List Char) :
    value? depth (fuel + 1) (quoted s ++ rest) = some (.text s, rest) := by
  have hbody : stringBody? (s.toList.flatMap escapeChar ++ ['"'] ++ rest)
      = some (s.toList, rest) := by
    rw [List.append_assoc]
    exact stringBody?_quoted s.toList rest
  rw [value?, quoted]
  show (stringBody? (s.toList.flatMap escapeChar ++ ['"'] ++ rest)).map _ = _
  rw [hbody]
  show some (Json.text (String.ofList s.toList), rest) = _
  rw [String.ofList_toList]

end SiteIndex.Json.Reader

namespace SiteIndex.Index.Summary

open Json.Reader

/-! ## Fields -/

/-- A field starts with the quoted name. -/
theorem fieldText_append (name value : String) (rest : List Char) :
    fieldText name value ++ rest =
      '"' ::
        (name.toList.flatMap Json.escapeChar ++ '"' :: ':' :: (Json.quoted value ++ rest)) := by
  simp [fieldText, Json.quoted]

/-- No blanks stand before the signs of an object. -/
theorem skipBlanks_sign (rest : List Char) :
    skipBlanks ('\x7b' :: rest) = '\x7b' :: rest ∧ skipBlanks ('\x7d' :: rest) = '\x7d' :: rest ∧
      skipBlanks ('"' :: rest) = '"' :: rest ∧ skipBlanks (':' :: rest) = ':' :: rest ∧
      skipBlanks (',' :: rest) = ',' :: rest :=
  ⟨rfl, rfl, rfl, rfl, rfl⟩

/-- A field that others follow is read. -/
theorem fields?_more (depth fuel : Nat) (name value : String) (rest : List Char) :
    fields? depth (fuel + 2) (fieldText name value ++ ',' :: rest) =
      (fields? depth (fuel + 1) rest).map fun (more, rest) =>
        ((name, .text value) :: more, rest) := by
  rw [fields?, fieldText_append]
  simp only [stringBody?_quoted, skipBlanks_sign, value?_quoted, String.ofList_toList]

/-- The last field is read. -/
theorem fields?_last (depth fuel : Nat) (name value : String) (rest : List Char) :
    fields? depth (fuel + 2) (fieldText name value ++ '\x7d' :: rest) =
      some ([(name, .text value)], rest) := by
  rw [fields?, fieldText_append]
  simp only [stringBody?_quoted, skipBlanks_sign, value?_quoted, String.ofList_toList]

/-- An object that starts with a field is read by its fields. -/
theorem value?_fieldText (depth fuel : Nat) (name value : String) (rest : List Char) :
    value? (depth + 1) (fuel + 1) ('\x7b' :: (fieldText name value ++ rest)) =
      (fields? depth fuel (fieldText name value ++ rest)).map fun (read, rest) =>
        (.object read, rest) := by
  rw [value?, fieldText_append]
  simp [skipBlanks_sign]

/-- The text of a summary. -/
def text (s : Summary) : List Char :=
  '\x7b' :: fieldText "url" s.url ++ ',' :: fieldText "title" s.title
    ++ ',' :: fieldText "description" s.description
    ++ ',' :: fieldText "language" s.language ++ ['\x7d']

/-- The text of a summary is read. -/
theorem read?_text (s : Summary) :
    read? s.text = some (.object [("url", .text s.url), ("title", .text s.title),
      ("description", .text s.description), ("language", .text s.language)]) := by
  -- The text is longer than the four fields, so that there is fuel for all of them.
  have hfuel : s.text.length + 1 = (s.text.length - 5) + 6 := by
    have hlength : 5 ≤ s.text.length := by
      simp only [text, fieldText, Json.quoted, List.length_append, List.length_cons]
      omega
    omega
  have hvalue : readFront? s.text = some (.object [("url", .text s.url), ("title", .text s.title),
      ("description", .text s.description), ("language", .text s.language)], []) := by
    rw [readFront?, hfuel, text]
    simp only [List.append_assoc, List.cons_append]
    rw [deepest, value?_fieldText, fields?_more, fields?_more, fields?_more, fields?_last]
    rfl
  rw [read?, hvalue]
  rfl

/-- A summary that was stored is read as it was. -/
theorem decode_encode (s : Summary) : decode s.encode = .ok s := by
  have hbytes : s.encode = Text.Utf8.encode (.ofList s.text) := by
    rw [Text.Utf8.encode, String.toList_ofList]
    rfl
  rw [decode, hbytes, Text.Utf8.decode?_encode]
  simp only [Option.bind_eq_bind, Option.bind_some, String.toList_ofList, read?_text]
  simp [ofJson?, field?]

end SiteIndex.Index.Summary
