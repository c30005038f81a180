import Mathlib.Data.List.Basic
import SiteIndex.Markup.Format
import SiteIndex.Page.Language
import SiteIndex.Proofs.Text.CamelCase

/-!
# Parts of paths

A path is cut at its slashes and joined again. The parts of a path in any spelling can be joined to
a path that has the same parts (`pathParts_joinPath`), so that a clean path is its own clean form.
What stands before and after the first slash is told by `splitFirst?_eq_some_iff`. A directory whose
name is a language tag is a single part.
-/

namespace SiteIndex

/-! ## Pieces between cuts -/

namespace Text

variable {cut : Char → Bool} {c : Char} {cs front rest : List Char}

/-- A character in front goes into the first piece. -/
theorem pushChunk_eq_cons (c : Char) {pieces : List (List Char)} (h : pieces ≠ []) :
    pushChunk c pieces = (c :: pieces.head h) :: pieces.tail := by
  cases pieces with
  | nil => exact absurd rfl h
  | cons piece others => rfl

/-- There is always a piece, if only an empty one. -/
theorem splitBy_ne_nil (cut : Char → Bool) (cs : List Char) : splitBy cut cs ≠ [] := by
  induction cs with
  | nil => exact nofun
  | cons c cs ih =>
      unfold splitBy
      split
      · exact nofun
      · rw [pushChunk_eq_cons c ih]
        exact nofun

/-- Without a cut there is one piece. -/
theorem splitBy_of_uncut (h : ∀ c ∈ cs, cut c = false) : splitBy cut cs = [cs] := by
  induction cs with
  | nil => rfl
  | cons c cs ih =>
      obtain ⟨hc, hcs⟩ := List.forall_mem_cons.1 h
      rw [splitBy, hc, ih hcs]
      rfl

/-- The first cut ends the first piece. -/
theorem splitBy_append (hfront : ∀ c ∈ front, cut c = false) (hc : cut c = true) :
    splitBy cut (front ++ c :: rest) = front :: splitBy cut rest := by
  induction front with
  | nil =>
      show splitBy cut (c :: rest) = _
      rw [splitBy, if_pos hc]
  | cons d front ih =>
      obtain ⟨hd, hfront⟩ := List.forall_mem_cons.1 hfront
      rw [List.cons_append, splitBy, hd, ih hfront]
      rfl

/-- The pieces of pieces that are joined by a cut are these. -/
theorem splitBy_intercalate (hc : cut c = true) {pieces : List (List Char)} (hne : pieces ≠ [])
    (h : ∀ piece ∈ pieces, ∀ c ∈ piece, cut c = false) :
    splitBy cut ([c].intercalate pieces) = pieces := by
  induction pieces with
  | nil => exact absurd rfl hne
  | cons piece others ih =>
      obtain ⟨hpiece, hothers⟩ := List.forall_mem_cons.1 h
      cases others with
      | nil =>
          rw [List.intercalate_singleton]
          exact splitBy_of_uncut hpiece
      | cons other others =>
          rw [List.intercalate_cons_cons, List.append_assoc, List.singleton_append,
            splitBy_append hpiece hc, ih (List.cons_ne_nil _ _) hothers]

/-- What is neither in the pieces nor between them is not in the pieces joined. -/
theorem not_mem_intercalate {between : List Char} (hbetween : c ∉ between)
    {pieces : List (List Char)} (h : ∀ piece ∈ pieces, c ∉ piece) :
    c ∉ between.intercalate pieces := by
  induction pieces with
  | nil => exact List.not_mem_nil
  | cons piece others ih =>
      obtain ⟨hpiece, hothers⟩ := List.forall_mem_cons.1 h
      cases others with
      | nil => rwa [List.intercalate_singleton]
      | cons other others =>
          rw [List.intercalate_cons_cons, List.mem_append, List.mem_append, not_or, not_or]
          exact ⟨⟨hpiece, hbetween⟩, ih hothers⟩

/-- A character in front goes into the pieces that stand before others. -/
theorem pushChunk_append (c : Char) {pieces : List (List Char)} (h : pieces ≠ [])
    (others : List (List Char)) :
    pushChunk c (pieces ++ others) = pushChunk c pieces ++ others := by
  cases pieces with
  | nil => exact absurd rfl h
  | cons piece rest => rfl

/-- A cut parts the pieces before it from those behind it. -/
theorem splitBy_append_cut (hc : cut c = true) :
    splitBy cut (front ++ c :: rest) = splitBy cut front ++ splitBy cut rest := by
  induction front with
  | nil =>
      rw [List.nil_append, splitBy.eq_2, if_pos hc]
      rfl
  | cons d front ih =>
      rw [List.cons_append, splitBy, splitBy, ih]
      split
      · rfl
      · exact pushChunk_append d (splitBy_ne_nil cut front) _

/-- The pieces together are what is not cut away. -/
theorem flatten_splitBy (cut : Char → Bool) (cs : List Char) :
    (splitBy cut cs).flatten = cs.filter fun c => !cut c := by
  induction cs with
  | nil => rfl
  | cons d cs ih =>
      unfold splitBy
      split
      case isTrue hd =>
        rw [List.filter_cons_of_neg (by simp [hd])]
        exact ih
      case isFalse hd =>
        have hpieces := splitBy_ne_nil cut cs
        rw [pushChunk_eq_cons d hpieces, List.filter_cons_of_pos (by simpa using hd), ← ih]
        conv_rhs => rw [← List.cons_head_tail hpieces]
        rfl

/-- The pieces have the characters that are not cut away. -/
theorem exists_piece_iff : (∃ piece ∈ splitBy cut cs, c ∈ piece) ↔ c ∈ cs ∧ cut c = false := by
  rw [← List.mem_flatten, flatten_splitBy, List.mem_filter, Bool.not_eq_true']

/-- No piece has a cut. -/
theorem uncut_of_mem_splitBy {piece : List Char} (h : piece ∈ splitBy cut cs) :
    ∀ c ∈ piece, cut c = false := fun _ hc => (exists_piece_iff.1 ⟨piece, h, hc⟩).2

/-- A piece has no other characters than the whole. -/
theorem mem_of_mem_splitBy {piece : List Char} (h : piece ∈ splitBy cut cs) (hc : c ∈ piece) :
    c ∈ cs := (exists_piece_iff.1 ⟨piece, h, hc⟩).1

/-- What is not cut away is in a piece. -/
theorem exists_piece (h : c ∈ cs) (hc : cut c = false) : ∃ piece ∈ splitBy cut cs, c ∈ piece :=
  exists_piece_iff.2 ⟨h, hc⟩

end Text

namespace Files

/-! ## Clean paths -/

/-- A text that can stand between the slashes of a clean path. -/
structure IsPart (part : String) : Prop where
  ne_empty : part ≠ ""
  ne_point : part ≠ "."
  no_slash : '/' ∉ part.toList
  no_backslash : '\\' ∉ part.toList

/-- A part has no slash of either kind. -/
theorem IsPart.uncut {part : String} (h : IsPart part) :
    ∀ c ∈ part.toList, (decide (c = '/') || decide (c = '\\')) = false := by
  intro c hc
  have hslash : c ≠ '/' := fun heq => h.no_slash (heq ▸ hc)
  have hback : c ≠ '\\' := fun heq => h.no_backslash (heq ▸ hc)
  simp [hslash, hback]

/-- The parts of a path can stand in a clean one. -/
theorem isPart_of_mem_pathParts {path part : String} (h : part ∈ pathParts path) : IsPart part := by
  obtain ⟨hmem, hkept⟩ := List.mem_filter.1 h
  obtain ⟨piece, hpiece, rfl⟩ := List.mem_map.1 hmem
  obtain ⟨hempty, hpoint⟩ := Bool.and_eq_true_iff.1 hkept
  have huncut : ∀ c ∈ (String.ofList piece).toList,
      (decide (c = '/') || decide (c = '\\')) = false := by
    rw [String.toList_ofList]
    exact Text.uncut_of_mem_splitBy hpiece
  exact ⟨of_decide_eq_true hempty, of_decide_eq_true hpoint, fun hc => by simpa using huncut _ hc,
    fun hc => by simpa using huncut _ hc⟩

/-- Parts are found again in the path that they are joined to. -/
theorem pathParts_joinPath {parts : List String} (h : ∀ part ∈ parts, IsPart part) :
    pathParts (joinPath parts) = parts := by
  by_cases hnil : parts = []
  · subst hnil
    rfl
  · have hpieces : Text.splitBy (fun c => decide (c = '/') || decide (c = '\\'))
        (joinPath parts).toList = parts.map String.toList := by
      rw [joinPath, String.toList_intercalate]
      refine Text.splitBy_intercalate (by decide) (by simpa using hnil) ?_
      intro piece hpiece
      obtain ⟨part, hpart, rfl⟩ := List.mem_map.1 hpiece
      exact (h part hpart).uncut
    have hback : (parts.map String.toList).map String.ofList = parts := by
      rw [List.map_map]
      exact (List.map_congr_left fun part _ => String.ofList_toList).trans (List.map_id _)
    rw [pathParts, hpieces, hback]
    exact List.filter_eq_self.2 fun part hpart => by
      simp [(h part hpart).ne_empty, (h part hpart).ne_point]

/-- A clean path is its own clean form. -/
theorem cleanPath_cleanPath (path : String) : cleanPath (cleanPath path) = cleanPath path := by
  rw [cleanPath, cleanPath, pathParts_joinPath fun _ => isPart_of_mem_pathParts]

/-- A single part is joined to itself. -/
theorem joinPath_singleton (part : String) : joinPath [part] = part := by
  rw [← String.toList_inj, joinPath, String.toList_intercalate]
  exact List.intercalate_singleton

/-- A part stands before the others. -/
theorem joinPath_cons {part : String} {others : List String} (h : others ≠ []) :
    joinPath (part :: others) = part ++ "/" ++ joinPath others := by
  obtain ⟨other, others, rfl⟩ := List.exists_cons_of_ne_nil h
  rw [← String.toList_inj, String.toList_append, String.toList_append, joinPath,
    String.toList_intercalate, joinPath, String.toList_intercalate]
  exact List.intercalate_cons_cons

/-- Paths of some parts each are joined by a slash. -/
theorem joinPath_append {parts others : List String} (h : parts ≠ []) (h' : others ≠ []) :
    joinPath (parts ++ others) = joinPath parts ++ "/" ++ joinPath others := by
  induction parts with
  | nil => exact absurd rfl h
  | cons part rest ih =>
      rw [List.cons_append, joinPath_cons (List.append_ne_nil_of_right_ne_nil _ h')]
      by_cases hrest : rest = []
      · rw [hrest, joinPath_singleton]
        rfl
      · rw [ih hrest, joinPath_cons hrest]
        simp only [String.append_assoc]

/-- A path below a directory has the parts of the directory and then its own. -/
theorem pathParts_append (dir rest : String) :
    pathParts (dir ++ "/" ++ rest) = pathParts dir ++ pathParts rest := by
  rw [pathParts, String.toList_append, String.toList_append, List.append_assoc]
  show ((Text.splitBy _ (dir.toList ++ '/' :: rest.toList)).map _).filter _ = _
  rw [Text.splitBy_append_cut (by decide), List.map_append, List.filter_append]
  rfl

/-- A clean path has the parts of the path. -/
theorem pathParts_cleanPath (path : String) : pathParts (cleanPath path) = pathParts path :=
  pathParts_joinPath fun _ => isPart_of_mem_pathParts

/-- A path with a part is not empty when it is clean. -/
theorem cleanPath_ne_empty_iff {path : String} : cleanPath path ≠ "" ↔ pathParts path ≠ [] := by
  refine not_congr ⟨fun hempty => ?_, fun hnil => by rw [cleanPath, hnil]; rfl⟩
  rw [← pathParts_cleanPath, hempty]
  rfl

/-- A single part is clean. -/
theorem IsPart.cleanPath_eq {part : String} (h : IsPart part) : cleanPath part = part := by
  have hparts : pathParts (joinPath [part]) = [part] := pathParts_joinPath (by simpa using h)
  rw [joinPath_singleton] at hparts
  rw [cleanPath, hparts, joinPath_singleton]

/-! ## The first slash -/

/-- The characters of a path in a directory. -/
theorem toList_append_slash (dir rest : String) :
    (dir ++ "/" ++ rest).toList = dir.toList ++ '/' :: rest.toList := by
  rw [String.toList_append, String.toList_append, List.append_assoc]
  rfl

/-- A path is cut at its first slash. -/
theorem splitFirst?_eq_some_iff {path dir rest : String} :
    splitFirst? path = some (dir, rest) ↔ path = dir ++ "/" ++ rest ∧ '/' ∉ dir.toList := by
  have htake := List.takeWhile_append_dropWhile (p := fun c => decide (c ≠ '/')) (l := path.toList)
  unfold splitFirst?
  constructor
  · intro h
    split at h
    case h_1 => cases h
    case h_2 c tail hdrop =>
      obtain ⟨rfl, rfl⟩ := Prod.mk.inj (Option.some.inj h)
      have hslash : c = '/' := by
        have hhead := List.head?_dropWhile_not (fun c => decide (c ≠ '/')) path.toList
        rw [hdrop] at hhead
        simpa using hhead
      refine ⟨?_, fun hmem => ?_⟩
      · rw [hdrop, hslash] at htake
        rw [← String.toList_inj, toList_append_slash, String.toList_ofList, String.toList_ofList]
        exact htake.symm
      · rw [String.toList_ofList] at hmem
        simpa using List.all_eq_true.1 List.all_takeWhile _ hmem
  · rintro ⟨rfl, hdir⟩
    have hfront : ∀ c ∈ dir.toList, decide (c ≠ '/') = true := fun c hc =>
      decide_eq_true fun heq => hdir (heq ▸ hc)
    rw [toList_append_slash, List.dropWhile_append_of_pos hfront,
      List.takeWhile_append_of_pos hfront]
    simp

/-- A front is dropped from the texts that start with it. -/
theorem dropFront?_eq_some_iff {front text rest : String} :
    dropFront? front text = some rest ↔ text = front ++ rest := by
  unfold dropFront?
  constructor
  · intro h
    split at h
    case isTrue hprefix =>
      obtain ⟨back, hback⟩ := List.isPrefixOf_iff_prefix.1 hprefix
      rw [← Option.some.inj h, ← String.toList_inj, String.toList_append, String.toList_ofList,
        ← hback, List.drop_left]
    case isFalse => cases h
  · rintro rfl
    rw [String.toList_append, if_pos (List.isPrefixOf_iff_prefix.2 (List.prefix_append ..)),
      List.drop_left, String.ofList_toList]

/-- The name of a file does not depend on the directories that it is in. -/
theorem fileName_append (dir rest : String) : fileName (dir ++ "/" ++ rest) = fileName rest := by
  have hback : (rest.toList.reverse ++ '/' :: dir.toList.reverse).takeWhile (· ≠ '/')
      = rest.toList.reverse.takeWhile (· ≠ '/') := by
    rw [List.takeWhile_append]
    split
    case isTrue hall =>
      rw [(List.takeWhile_prefix _).eq_of_length hall]
      simp
    case isFalse => rfl
  rw [fileName, toList_append_slash, List.reverse_append, List.reverse_cons, List.append_assoc,
    List.singleton_append, hback, fileName]

/-- The format of a file does not depend on the directories that it is in. -/
theorem formatOf_append (dir rest : String) :
    Markup.formatOf (dir ++ "/" ++ rest) = Markup.formatOf rest := by
  rw [Markup.formatOf, Markup.formatOf, fileName_append]

/-- What is below the first directory of a clean path is clean. -/
theorem cleanPath_of_append {dir rest : String}
    (h : cleanPath (dir ++ "/" ++ rest) = dir ++ "/" ++ rest) (hdir : '/' ∉ dir.toList) :
    cleanPath rest = rest := by
  have hparts : ∀ part ∈ pathParts (dir ++ "/" ++ rest), IsPart part := fun _ =>
    isPart_of_mem_pathParts
  rw [cleanPath] at h
  generalize pathParts (dir ++ "/" ++ rest) = parts at h hparts
  cases parts with
  | nil =>
      have hlist := congrArg String.toList h
      rw [toList_append_slash] at hlist
      exact absurd hlist.symm (List.append_ne_nil_of_right_ne_nil _ (List.cons_ne_nil _ _))
  | cons part others =>
      obtain ⟨hpart, hothers⟩ := List.forall_mem_cons.1 hparts
      cases others with
      | nil =>
          rw [joinPath_singleton] at h
          exact absurd (by simp [h]) hpart.no_slash
      | cons other others =>
          rw [joinPath_cons (List.cons_ne_nil other others)] at h
          have hcut := splitFirst?_eq_some_iff.2 ⟨h.symm, hpart.no_slash⟩
          rw [splitFirst?_eq_some_iff.2 ⟨rfl, hdir⟩] at hcut
          obtain ⟨-, rfl⟩ := Prod.mk.inj (Option.some.inj hcut)
          rw [cleanPath, pathParts_joinPath hothers]

end Files

namespace Page

/-- The parts of a language tag have letters and digits. -/
theorem isAlphanum_of_mem_tagParts {tag : String} (h : isLanguageTag tag = true)
    {part : List Char} (hpart : part ∈ tagParts tag) : ∀ c ∈ part, c.isAlphanum = true := by
  unfold isLanguageTag at h
  cases hparts : tagParts tag with
  | nil => exact absurd hparts (Text.splitBy_ne_nil _ _)
  | cons primary subtags =>
      rw [hparts] at h hpart
      simp only [Bool.and_eq_true] at h
      obtain ⟨⟨hprimary, hsubtags⟩, -⟩ := h
      intro c hc
      rcases List.mem_cons.1 hpart with rfl | hpart
      · have hall := (Bool.and_eq_true_iff.1 hprimary).2
        show (c.isAlpha || c.isDigit) = true
        rw [List.all_eq_true.1 hall c hc, Bool.true_or]
      · have hall := (Bool.and_eq_true_iff.1 (List.all_eq_true.1 hsubtags part hpart)).2
        exact List.all_eq_true.1 hall c hc

/-- A language tag has letters, digits and hyphens. -/
theorem isAlphanum_of_isLanguageTag {tag : String} (h : isLanguageTag tag = true) {c : Char}
    (hc : c ∈ tag.toList) : c = '-' ∨ c.isAlphanum = true := by
  by_cases hhyphen : c = '-'
  · exact .inl hhyphen
  · obtain ⟨part, hpart, hmem⟩ : ∃ part ∈ Text.splitBy (· = '-') tag.toList, c ∈ part :=
      Text.exists_piece hc (decide_eq_false hhyphen)
    exact .inr (isAlphanum_of_mem_tagParts h hpart c hmem)

/-- A language tag can stand between the slashes of a clean path. -/
theorem isPart_of_isLanguageTag {tag : String} (h : isLanguageTag tag = true) :
    Files.IsPart tag := by
  refine ⟨?_, ?_, fun hc => ?_, fun hc => ?_⟩
  · rintro rfl
    exact absurd h (by decide)
  · rintro rfl
    exact absurd h (by decide)
  · exact absurd (isAlphanum_of_isLanguageTag h hc) (by decide)
  · exact absurd (isAlphanum_of_isLanguageTag h hc) (by decide)

/-! ### Tags in their usual case -/

/-- Letters and digits are no NUL in any case. -/
theorem cased_ne_zero {c : Char} (h : c.isAlphanum = true) :
    '\x00' ≠ c.toLower ∧ '\x00' ≠ c.toUpper :=
  Text.forall_isAlphanum (P := fun c => '\x00' ≠ c.toLower ∧ '\x00' ≠ c.toUpper)
    (by decide +kernel) h

section Cases

variable {part : List Char} (h : ∀ c ∈ part, c.isAlphanum = true)

include h

/-- Letters and digits in lower case hold no NUL. -/
theorem zero_not_mem_lower : '\x00' ∉ part.map Char.toLower := by
  intro hmem
  obtain ⟨c, hc, hzero⟩ := List.mem_map.1 hmem
  exact (cased_ne_zero (h c hc)).1 hzero.symm

/-- Letters and digits in upper case hold no NUL. -/
theorem zero_not_mem_upper : '\x00' ∉ part.map Char.toUpper := by
  intro hmem
  obtain ⟨c, hc, hzero⟩ := List.mem_map.1 hmem
  exact (cased_ne_zero (h c hc)).2 hzero.symm

/-- A later part of a tag in its usual case holds no NUL. -/
theorem zero_not_mem_normalizeSubtag : '\x00' ∉ normalizeSubtag part := by
  unfold normalizeSubtag
  dsimp only
  split
  · exact zero_not_mem_upper h
  · split
    · cases part with
      | nil => exact List.not_mem_nil
      | cons c rest =>
          obtain ⟨hc, hrest⟩ := List.forall_mem_cons.1 h
          rw [List.mem_cons, not_or]
          exact ⟨(cased_ne_zero hc).2, zero_not_mem_lower hrest⟩
    · exact zero_not_mem_lower h

end Cases

/-- A language tag in its usual case holds no NUL. -/
theorem zero_not_mem_normalizeTag {tag : String} (h : isLanguageTag tag = true) :
    '\x00' ∉ (normalizeTag tag).toList := by
  have hparts : ∀ part ∈ tagParts tag, _ := fun _ => isAlphanum_of_mem_tagParts h
  unfold normalizeTag
  cases hsplit : tagParts tag with
  | nil => exact List.not_mem_nil
  | cons primary rest =>
      rw [hsplit] at hparts
      obtain ⟨hprimary, hrest⟩ := List.forall_mem_cons.1 hparts
      dsimp only
      rw [String.toList_intercalate, List.map_cons, List.map_map]
      refine Text.not_mem_intercalate (by decide) (List.forall_mem_cons.2 ⟨?_, ?_⟩)
      · rw [String.toList_ofList]
        exact zero_not_mem_lower hprimary
      · intro piece hpiece
        obtain ⟨part, hpart, rfl⟩ := List.mem_map.1 hpiece
        show _ ∉ (String.ofList _).toList
        rw [String.toList_ofList]
        exact zero_not_mem_normalizeSubtag (hrest part hpart)

end Page

end SiteIndex
