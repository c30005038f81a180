import SiteIndex.Page.Frontmatter
import SiteIndex.Proofs.Json.Front

/-!
# The parts of a page with frontmatter

Splitting cuts a text and loses nothing of it. A text between fences is its marker, a line break,
the lines of the header, the first line that is the marker again apart from blanks at its end, and
the body (`Fenced`); the reader of the header gets these lines and nothing else. Lines are taken
with their line feeds (`Lines`), so that they put together are the text, and `untilDelimiter?` is
described by an induction on them. A JSON object ends where its last brace does, and one line break
behind it belongs neither to it nor to the body.
-/

namespace SiteIndex.Page

/-! ## Lines -/

/-- The lines of a text, each with its line feed; only the last one may do without. -/
inductive Lines : List (List Char) → Prop
  | nil : Lines []
  | last (line : List Char) : line ≠ [] → '\n' ∉ line → Lines [line]
  | cons (front : List Char) (rest : List (List Char)) :
      '\n' ∉ front → Lines rest → Lines ((front ++ ['\n']) :: rest)

/-- The first line of a text ends with its first line feed. -/
theorem splitLine_append {front : List Char} (h : '\n' ∉ front) (rest : List Char) :
    splitLine (front ++ '\n' :: rest) = (front ++ ['\n'], rest) := by
  induction front with
  | nil => rfl
  | cons c front ih =>
      rw [List.mem_cons, not_or] at h
      rw [List.cons_append, splitLine, ih h.2]
      · rfl
      · exact Ne.symm h.1

/-- A text without a line feed is a line. -/
theorem splitLine_of_not_mem {line : List Char} (h : '\n' ∉ line) :
    splitLine line = (line, []) := by
  induction line with
  | nil => rfl
  | cons c line ih =>
      rw [List.mem_cons, not_or] at h
      rw [splitLine, ih h.2]
      exact Ne.symm h.1

namespace Lines

variable {line marker : List Char} {rest lines before behind : List (List Char)}

theorem ne_nil (h : Lines (line :: rest)) : line ≠ [] := by
  cases h with
  | last _ hne _ => exact hne
  | cons front _ _ _ => exact List.append_ne_nil_of_right_ne_nil front (List.cons_ne_nil _ _)

theorem tail (h : Lines (line :: rest)) : Lines rest := by
  cases h with
  | last _ _ _ => exact .nil
  | cons _ _ _ hrest => exact hrest

/-- The first line is cut off. -/
theorem splitLine_eq (h : Lines (line :: rest)) :
    splitLine (line :: rest).flatten = (line, rest.flatten) := by
  cases h with
  | last _ _ hline => simpa using splitLine_of_not_mem hline
  | cons front _ hfront _ => simpa using splitLine_append hfront rest.flatten

/-- Looking for the marker starts with the first line. -/
theorem untilDelimiter?_cons (h : Lines (line :: rest)) :
    untilDelimiter? marker (line :: rest).flatten =
      if Text.trimEnd line = marker then some ([], rest.flatten)
      else (untilDelimiter? marker rest.flatten).map fun (head, body) => (line ++ head, body) := by
  have hsplit := h.splitLine_eq
  cases line with
  | nil => exact absurd rfl h.ne_nil
  | cons c line =>
      rw [List.flatten_cons, List.cons_append] at hsplit ⊢
      rw [untilDelimiter?, hsplit]

/-- The header is in the lines before the first one that is the marker, and the body in those after
it. -/
theorem untilDelimiter?_eq_some {closing : List Char} (h : Lines (before ++ closing :: behind))
    (hbefore : ∀ line ∈ before, Text.trimEnd line ≠ marker)
    (hclosing : Text.trimEnd closing = marker) :
    untilDelimiter? marker (before ++ closing :: behind).flatten
      = some (before.flatten, behind.flatten) := by
  induction before with
  | nil => exact h.untilDelimiter?_cons.trans (if_pos hclosing)
  | cons line before ih =>
      have hrest := ih h.tail fun other hother => hbefore other (List.mem_cons_of_mem line hother)
      have hline := hbefore line (List.mem_cons_self ..)
      rw [List.cons_append] at h ⊢
      rw [h.untilDelimiter?_cons, if_neg hline, hrest]
      rfl

/-- Without such a line there is no header. -/
theorem untilDelimiter?_eq_none (h : Lines lines)
    (hlines : ∀ line ∈ lines, Text.trimEnd line ≠ marker) :
    untilDelimiter? marker lines.flatten = none := by
  induction lines with
  | nil => rw [List.flatten_nil, untilDelimiter?]
  | cons line lines ih =>
      have hrest := ih h.tail fun other hother => hlines other (List.mem_cons_of_mem line hother)
      rw [h.untilDelimiter?_cons, if_neg (hlines line (List.mem_cons_self ..)), hrest]
      rfl

end Lines

/-- Every text has lines. -/
theorem exists_lines (cs : List Char) : ∃ lines, Lines lines ∧ lines.flatten = cs := by
  induction cs with
  | nil => exact ⟨[], .nil, rfl⟩
  | cons c cs ih =>
      obtain ⟨lines, hlines, rfl⟩ := ih
      -- A line feed is a line of its own, and any other character starts the first line behind it.
      by_cases hc : c = '\n'
      · subst hc
        exact ⟨[] ++ ['\n'] :: lines, .cons [] lines (List.not_mem_nil) hlines, rfl⟩
      · cases hlines with
        | nil => exact ⟨[[c]], .last [c] (by simp) (by simpa using Ne.symm hc), rfl⟩
        | last line hne hline =>
            exact ⟨[c :: line], .last _ (by simp) (by simp [Ne.symm hc, hline]), by simp⟩
        | cons front rest hfront hrest =>
            exact ⟨((c :: front) ++ ['\n']) :: rest,
              .cons (c :: front) rest (by simp [Ne.symm hc, hfront]) hrest, by simp⟩

/-- A line feed, perhaps behind a carriage return. -/
def IsLineBreak (cs : List Char) : Prop := cs = ['\n'] ∨ cs = ['\r', '\n']

/-- What is dropped at the front of a text is one line break at most. -/
theorem exists_lineBreak (cs : List Char) :
    ∃ lineBreak, (lineBreak = [] ∨ IsLineBreak lineBreak) ∧ cs = lineBreak ++ dropLineBreak cs := by
  unfold dropLineBreak
  split
  · exact ⟨['\r', '\n'], .inr (.inr rfl), rfl⟩
  · exact ⟨['\n'], .inr (.inl rfl), rfl⟩
  · exact ⟨[], .inl rfl, rfl⟩

/-! ## Fences -/

/-- The fences around a header. -/
inductive Fence where
  | plus
  | minus
  deriving DecidableEq, Repr

namespace Fence

def marker : Fence → List Char
  | .plus => ['+', '+', '+']
  | .minus => ['-', '-', '-']

def style : Fence → FrontmatterStyle
  | .plus => .toml
  | .minus => .yaml

/-- What the lines between the fences come to. -/
def fields : Fence → List Char → Outcome Context
  | .plus, head =>
    match Toml.read? head with
    | none => .error .invalidToml
    | some fields => .ok (tomlContext fields)
  | .minus, head =>
    match Yaml.read? head with
    | none => .error .invalidYaml
    | some .null => .ok ∅
    | some (.mapping entries) => .ok (yamlContext entries)
    | some _ => .error .yamlNotMapping

end Fence

/-- A text is a marker, a line break, the lines of a header, the first line that is the marker but
for blanks at its end, and the lines of a body. -/
structure Fenced (marker lineBreak : List Char) (header : List (List Char)) (closing : List Char)
    (body : List (List Char)) (text : List Char) : Prop where
  text_eq : text = marker ++ lineBreak ++ header.flatten ++ closing ++ body.flatten
  isLineBreak : IsLineBreak lineBreak
  lines : Lines (header ++ closing :: body)
  closes : Text.trimEnd closing = marker
  first : ∀ line ∈ header, Text.trimEnd line ≠ marker

/-- The marker at the front of a text ends its line, and some later line is the marker but for
blanks at its end. -/
def Closes (marker text : List Char) : Prop :=
  ∃ lineBreak lines, IsLineBreak lineBreak ∧ Lines lines ∧
    text = marker ++ lineBreak ++ lines.flatten ∧ ∃ line ∈ lines, Text.trimEnd line = marker

section Fences

variable {marker lineBreak text rest : List Char} {header body : List (List Char)}
  {closing : List Char}

/-- The first of the closing lines closes. -/
theorem Closes.exists_fenced (h : Closes marker text) :
    ∃ lineBreak header closing body, Fenced marker lineBreak header closing body text := by
  obtain ⟨lineBreak, lines, hbreak, hlines, rfl, line, hline, hcloses⟩ := h
  have hfound : lines.find? (fun line => decide (Text.trimEnd line = marker)) ≠ none :=
    fun hnone => List.find?_eq_none.1 hnone line hline (decide_eq_true hcloses)
  obtain ⟨closing, hclosing⟩ := Option.ne_none_iff_exists'.1 hfound
  obtain ⟨hmarker, header, body, rfl, hheader⟩ := List.find?_eq_some_iff_append.1 hclosing
  refine ⟨lineBreak, header, closing, body, by simp, hbreak, hlines, of_decide_eq_true hmarker,
    fun line hline => by simpa using hheader line hline⟩

theorem splitDelimited?_lineBreak (h : IsLineBreak lineBreak) (rest : List Char) :
    splitDelimited? marker (lineBreak ++ rest) = untilDelimiter? marker rest := by
  obtain rfl | rfl := h <;> rfl

/-- The header and the body of a fenced text are found. -/
theorem Fenced.splitDelimited?_eq (h : Fenced marker lineBreak header closing body text)
    (htext : text = marker ++ rest) :
    splitDelimited? marker rest = some (header.flatten, body.flatten) := by
  have hrest : rest = lineBreak ++ (header ++ closing :: body).flatten := by
    have heq := htext.symm.trans h.text_eq
    simpa using heq
  rw [hrest, splitDelimited?_lineBreak h.isLineBreak,
    h.lines.untilDelimiter?_eq_some h.first h.closes]

/-- Without a closing line nothing is found. -/
theorem splitDelimited?_eq_none (h : ¬ Closes marker (marker ++ rest)) :
    splitDelimited? marker rest = none := by
  -- Whichever line break stands behind the marker, none of the lines behind it closes.
  have hnone : ∀ lineBreak inner, IsLineBreak lineBreak → rest = lineBreak ++ inner →
      untilDelimiter? marker inner = none := by
    rintro lineBreak inner hbreak rfl
    obtain ⟨lines, hlines, rfl⟩ := exists_lines inner
    refine hlines.untilDelimiter?_eq_none fun line hline hmarker => h ?_
    exact ⟨lineBreak, lines, hbreak, hlines, by rw [List.append_assoc], line, hline, hmarker⟩
  unfold splitDelimited?
  split
  · exact hnone ['\r', '\n'] _ (.inr rfl) rfl
  · exact hnone ['\n'] _ (.inl rfl) rfl
  · rfl

end Fences

namespace Frontmatter

variable {text : String} {rest : List Char}

/-- A text with a marker at its front and no closing line is refused. -/
theorem split_of_unfenced {fence : Fence} (h : dropByteOrderMark text.toList = fence.marker ++ rest)
    (hrest : splitDelimited? fence.marker rest = none) :
    split text = .error (.unterminatedFrontmatter (.ofList fence.marker)) := by
  rw [split, h]
  cases fence with
  | plus =>
      show ofToml rest = _
      rw [ofToml, show splitDelimited? ['+', '+', '+'] rest = none from hrest]
      rfl
  | minus =>
      show ofYaml rest = _
      rw [ofYaml, show splitDelimited? ['-', '-', '-'] rest = none from hrest]
      rfl

/-- A text between fences has the fields of its header. -/
theorem split_of_fenced {fence : Fence} {head body : List Char}
    (h : dropByteOrderMark text.toList = fence.marker ++ rest)
    (hrest : splitDelimited? fence.marker rest = some (head, body)) :
    split text = (fence.fields head).map fun fields =>
      { style := some fence.style, fields, body := .ofList body } := by
  rw [split, h]
  cases fence with
  | plus =>
      show ofToml rest = _
      rw [ofToml, show splitDelimited? ['+', '+', '+'] rest = some (head, body) from hrest,
        Fence.fields]
      dsimp only
      cases Toml.read? head <;> rfl
  | minus =>
      show ofYaml rest = _
      rw [ofYaml, show splitDelimited? ['-', '-', '-'] rest = some (head, body) from hrest,
        Fence.fields]
      dsimp only
      cases Yaml.read? head with
      | none => rfl
      | some document => cases document <;> rfl

/-- A text with a brace at its front is an object, perhaps a line break, and the body. -/
theorem exists_parts_of_brace (h : dropByteOrderMark text.toList = '\x7b' :: rest)
    {page : Frontmatter} (hsplit : split text = .ok page) :
    ∃ object lineBreak fields, '\x7b' :: rest = object ++ lineBreak ++ page.body.toList ∧
      (lineBreak = [] ∨ IsLineBreak lineBreak) ∧
      (∀ more, Json.Reader.readFront? (object ++ more) = some (.object fields, more)) ∧
      page.style = some .json ∧ page.fields = jsonContext fields := by
  rw [split, h] at hsplit
  have hjson : ofJson ('\x7b' :: rest) = .ok page := hsplit
  rw [ofJson] at hjson
  cases hread : Json.Reader.readFront? ('\x7b' :: rest) with
  | none =>
      rw [hread] at hjson
      cases hjson
  | some read =>
      obtain ⟨v, left⟩ := read
      obtain ⟨fields, object, rfl, hcs, hobject⟩ := Json.Reader.readFront?_object hread
      rw [hread] at hjson
      obtain rfl := Except.ok.inj hjson
      obtain ⟨lineBreak, hbreak, hleft⟩ := exists_lineBreak left
      refine ⟨object, lineBreak, fields, ?_, hbreak, hobject, rfl, rfl⟩
      rw [hcs, String.toList_ofList, List.append_assoc, ← hleft]

/-- A text that starts in no such way is the body. -/
theorem split_of_plain {cs : List Char} (h : dropByteOrderMark text.toList = cs)
    (hfence : ∀ fence : Fence, ¬ fence.marker <+: cs) (hbrace : cs.head? ≠ some '\x7b') :
    split text = .ok { body := .ofList cs } := by
  rw [Frontmatter.split, h]
  split
  · exact absurd ⟨_, rfl⟩ (hfence .plus)
  · exact absurd ⟨_, rfl⟩ (hfence .minus)
  · exact absurd rfl hbrace
  · rfl

/-- A byte order mark is dropped once, and only from the front of a text. -/
theorem dropByteOrderMark_eq (cs : List Char) :
    (cs.head? ≠ some '\ufeff' ∧ cs = dropByteOrderMark cs) ∨
      cs = '\ufeff' :: dropByteOrderMark cs := by
  unfold dropByteOrderMark
  split
  · exact .inr rfl
  · rename_i hmark
    refine .inl ⟨fun hhead => ?_, rfl⟩
    obtain ⟨rest, rfl⟩ := List.head?_eq_some_iff.1 hhead
    exact hmark rest rfl

/-- Splitting loses nothing of a text but the byte order mark at its front. If a marker is at the
front and closes, then the header is in the lines up to the first closing one, the body is in the
lines behind it, and the fields are those of the header; if it does not close, the text is refused.
Behind a JSON object at most one line break is left out. Any other text is the body. -/
theorem split_loses_nothing (text : String) :
    let cs := dropByteOrderMark text.toList
    ((text.toList.head? ≠ some '\ufeff' ∧ text.toList = cs) ∨ text.toList = '\ufeff' :: cs) ∧
      (∀ fence : Fence, fence.marker <+: cs →
        (Closes fence.marker cs → ∃ lineBreak header closing body,
          Fenced fence.marker lineBreak header closing body cs) ∧
        (∀ lineBreak header closing body, Fenced fence.marker lineBreak header closing body cs →
          split text = (fence.fields header.flatten).map fun fields =>
            { style := some fence.style, fields, body := .ofList body.flatten }) ∧
        (¬ Closes fence.marker cs → ∃ failure,
          split text = .error failure ∧ failure.kind = .parse)) ∧
      (cs.head? = some '\x7b' → ∀ page, split text = .ok page → ∃ object lineBreak fields,
        cs = object ++ lineBreak ++ page.body.toList ∧
          (lineBreak = [] ∨ IsLineBreak lineBreak) ∧
          (∀ more, Json.Reader.readFront? (object ++ more) = some (.object fields, more)) ∧
          page.style = some .json ∧ page.fields = jsonContext fields) ∧
      ((∀ fence : Fence, ¬ fence.marker <+: cs) → cs.head? ≠ some '\x7b' →
        split text = .ok { body := .ofList cs }) := by
  intro cs
  refine ⟨dropByteOrderMark_eq _, fun fence hmarker => ?_, fun hbrace page hpage => ?_,
    split_of_plain rfl⟩
  · obtain ⟨rest, hrest⟩ := hmarker
    refine ⟨Closes.exists_fenced, fun lineBreak header closing body hfenced => ?_, fun hopen => ?_⟩
    · exact split_of_fenced hrest.symm (hfenced.splitDelimited?_eq hrest.symm)
    · exact ⟨_, split_of_unfenced hrest.symm (splitDelimited?_eq_none (hrest ▸ hopen)), rfl⟩
  · obtain ⟨rest, hrest⟩ := List.head?_eq_some_iff.1 hbrace
    rw [hrest]
    exact exists_parts_of_brace hrest hpage

/-- Longer runs of hyphens are lines of the header, the fence may end in blanks, and another one
behind it is text. A page is refused for a blank behind its first fence. An object is followed by
one line break that is left out and another one that is not, and a page without any of these is its
body. -/
theorem split_loses_nothing_edges :
    let fenced := ['-', '-', '-', '\r', '\n'] ++ ['-', '-', '-', '-', '\n']
      ++ ['-', '-', '-', ' ', '\r', '\n'] ++ ['-', '-', '-']
    let unfenced := ['+', '+', '+', ' ', '\n', '+', '+', '+']
    let object := ['\x7b', '\x7d', '\r', '\n', '\n', 'a']
    (Closes ['-', '-', '-'] fenced ∧ split (.ofList ('\ufeff' :: fenced))
        = (Fence.minus.fields ['-', '-', '-', '-', '\n']).map fun fields =>
          { style := some .yaml, fields, body := .ofList ['-', '-', '-'] }) ∧
      (¬ Closes ['+', '+', '+'] unfenced ∧
        ∃ failure, split (.ofList unfenced) = .error failure ∧ failure.kind = .parse) ∧
      (∃ page, split (.ofList object) = .ok page ∧ page.body = .ofList ['\n', 'a'] ∧
        page.style = some .json) ∧
      split (.ofList ['a']) = .ok { body := .ofList ['a'] } := by
  intro fenced unfenced object
  have hfenced : Fenced ['-', '-', '-'] ['\r', '\n'] [['-', '-', '-', '-', '\n']]
      ['-', '-', '-', ' ', '\r', '\n'] [['-', '-', '-']] fenced :=
    { text_eq := rfl
      isLineBreak := .inr rfl
      lines := .cons ['-', '-', '-', '-'] _ (by decide)
        (.cons ['-', '-', '-', ' ', '\r'] _ (by decide) (.last _ (by decide) (by decide)))
      closes := by decide
      first := by decide }
  have hcloses : Closes ['-', '-', '-'] fenced :=
    ⟨_, _, hfenced.isLineBreak, hfenced.lines, rfl, _, by simp, hfenced.closes⟩
  have hunfenced : ¬ Closes ['+', '+', '+'] unfenced := by
    rintro ⟨_, lines, rfl | rfl, -, htext, -⟩ <;> simp [unfenced] at htext
  obtain ⟨-, hfences, -, -⟩ := split_loses_nothing (.ofList ('\ufeff' :: fenced))
  obtain ⟨-, hrefused, -, -⟩ := split_loses_nothing (.ofList unfenced)
  obtain ⟨-, -, hobject, -⟩ := split_loses_nothing (.ofList object)
  obtain ⟨-, -, -, hplain⟩ := split_loses_nothing (.ofList ['a'])
  rw [String.toList_ofList] at hfences hrefused hobject hplain
  have hmark : dropByteOrderMark ('\ufeff' :: fenced) = fenced := rfl
  have hplus : dropByteOrderMark unfenced = unfenced := rfl
  rw [hmark] at hfences
  rw [hplus] at hrefused
  refine ⟨⟨hcloses, ?_⟩, ⟨hunfenced, ?_⟩, ?_, ?_⟩
  · have hsplit := (hfences .minus (by decide)).2.1 _ _ _ _ hfenced
    rw [List.flatten_singleton, List.flatten_singleton] at hsplit
    exact hsplit
  · exact (hrefused .plus (by decide)).2.2 hunfenced
  · have hsplit : split (.ofList object)
        = .ok { style := some .json, fields := jsonContext [], body := .ofList ['\n', 'a'] } := by
      rw [Frontmatter.split, String.toList_ofList]
      rfl
    obtain ⟨_, _, _, -, -, -, hstyle, -⟩ := hobject rfl _ hsplit
    exact ⟨_, hsplit, rfl, hstyle⟩
  · refine hplain (fun fence => ?_) (by decide)
    cases fence <;> decide

end Frontmatter

end SiteIndex.Page
