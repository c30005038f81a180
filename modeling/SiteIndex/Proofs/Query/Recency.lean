import Mathlib.Data.List.Dedup
import Mathlib.Data.List.DropRight
import SiteIndex.Query.Cache

/-!
# Caches hold the most recently used queries

The entries of a cache are a list that look-ups reorder and cut off. What they hold is a matter of
the requests alone: the texts that were used last, as many different ones as there is room for, in
the order of their last use (`Recent.Holds`). Hence a cache answers every request as the reader
does, and hits exactly those texts (`serves_recent`).
-/

namespace SiteIndex.Query

/-! ## The order of the last use -/

/-- Texts in the order of their last use, the last one first and each once. -/
def recent (uses : List String) : List String := uses.dedup.reverse

section Recent

variable {uses keys : List String} {key : String}

/-- Recent texts differ from each other. -/
theorem nodup_recent (uses : List String) : (recent uses).Nodup :=
  List.nodup_reverse.2 (List.nodup_dedup uses)

/-- Of a text and those before it the repeats before it are dropped. -/
theorem dedup_concat (uses : List String) (key : String) :
    (uses ++ [key]).dedup = uses.dedup.filter (· ≠ key) ++ [key] := by
  induction uses with
  | nil => rfl
  | cons first rest ih =>
      rw [List.cons_append]
      by_cases hfirst : first ∈ rest
      · rw [List.dedup_cons_of_mem (List.mem_append_left _ hfirst), ih,
          List.dedup_cons_of_mem hfirst]
      · rw [List.dedup_cons_of_notMem hfirst]
        by_cases hkey : first = key
        · rw [List.dedup_cons_of_mem (by simp [hkey]), ih, List.filter_cons_of_neg (by simp [hkey])]
        · rw [List.dedup_cons_of_notMem (by simp [hfirst, hkey]), ih,
            List.filter_cons_of_pos (by simpa using hkey), List.cons_append]

/-- The text that is used next comes first, and the others stay in their order. -/
theorem recent_concat (uses : List String) (key : String) :
    recent (uses ++ [key]) = key :: (recent uses).filter (· ≠ key) := by
  rw [recent, recent, dedup_concat, List.reverse_append, List.filter_reverse]
  rfl

/-- Of different texts at most one is a given one. -/
theorem le_length_filter_ne (h : keys.Nodup) (key : String) :
    keys.length - 1 ≤ (keys.filter (· ≠ key)).length := by
  have herase : keys.filter (· ≠ key) = keys.erase key := by
    rw [h.erase_eq_filter]
    exact List.filter_congr fun k _ => by simp [bne, beq_eq_decide]
  rw [herase]
  exact List.le_length_erase

/-- Of different texts, what comes to the front of the first ones comes to the front of all. -/
theorem take_front (h : keys.Nodup) {room : Nat} (hroom : 0 < room) (key : String) :
    (key :: (keys.take room).filter (· ≠ key)).take room
      = (key :: keys.filter (· ≠ key)).take room := by
  obtain ⟨left, rfl⟩ := Nat.exists_eq_add_one_of_ne_zero (Nat.ne_of_gt hroom)
  rw [List.take_succ_cons, List.take_succ_cons]
  by_cases hfull : left + 1 ≤ keys.length
  · -- Without the text at least `left` of the first ones remain, and no others are needed.
    have hremain : left ≤ ((keys.take (left + 1)).filter (· ≠ key)).length := by
      have hremain := le_length_filter_ne (h.sublist (List.take_sublist (left + 1) keys)) key
      rwa [List.length_take, Nat.min_eq_left hfull, Nat.add_sub_cancel] at hremain
    have hsplit : keys.filter (· ≠ key) = (keys.take (left + 1)).filter (· ≠ key)
        ++ (keys.drop (left + 1)).filter (· ≠ key) := by
      rw [← List.filter_append, List.take_append_drop]
    rw [hsplit, List.take_append_of_le_length hremain]
  · rw [List.take_of_length_le (l := keys) (by omega)]

/-- A text among the first ones comes to their front, and none of them goes. -/
theorem take_front_of_mem {room : Nat} (h : key ∈ keys.take room) :
    (key :: (keys.take room).filter (· ≠ key)).take room
      = key :: (keys.take room).filter (· ≠ key) := by
  refine List.take_of_length_le ?_
  have hlost : ((keys.take room).filter (· ≠ key)).length < (keys.take room).length :=
    List.length_filter_lt_length_iff_exists.2 ⟨key, h, by simp⟩
  rw [List.length_cons]
  exact Nat.le_trans hlost (List.length_take_le ..)

end Recent

/-! ## Entries -/

namespace Recent

variable {α : Type} {r : Recent α} {read : String → Except SyntaxError α} {room : Nat}
  {uses : List String} {key : String} {x : α}

/-- The entries are what reading gives for the texts that were used last. -/
structure Holds (r : Recent α) (read : String → Except SyntaxError α) (room : Nat)
    (uses : List String) : Prop where
  capacity : r.capacity = room
  room_pos : 0 < room
  keys : r.entries.map (·.1) = (recent uses).take room
  values : ∀ e ∈ r.entries, read e.1 = .ok e.2

/-- The keys without one of them. -/
theorem map_filter_ne (entries : List (String × α)) (key : String) :
    (entries.filter (·.1 ≠ key)).map (·.1) = (entries.map (·.1)).filter (· ≠ key) := by
  rw [List.filter_map]
  rfl

/-- The entries after a text was asked for: it comes to the front if it is there, and is put in if
it is read. -/
def ask (r : Recent α) (read : String → Except SyntaxError α) (key : String) : Recent α :=
  match r.find? key with
  | some (_, found) => found
  | none =>
    match read key with
    | .ok x => r.put key x
    | .error _ => r

namespace Holds

/-- Nothing is held before the first use. -/
theorem ofLimit (limit : Nat) (read : String → Except SyntaxError α) :
    (Recent.ofLimit limit).Holds read (max limit 1) [] :=
  ⟨rfl, by omega, by simp [Recent.ofLimit, recent], nofun⟩

/-- No more is held than there is room for. -/
theorem size_le (h : r.Holds read room uses) : r.size ≤ room := by
  rw [size, ← List.length_map (·.1), h.keys]
  exact List.length_take_le ..

/-- Nothing is held after the entries are dropped. -/
theorem clear (h : r.Holds read room uses) : r.clear.Holds read room [] :=
  ⟨h.capacity, h.room_pos, by simp [Recent.clear, recent], nofun⟩

/-- A text is found if it is one of those that were used last. -/
theorem lookup_isSome_iff (h : r.Holds read room uses) :
    (r.entries.lookup key).isSome = true ↔ key ∈ (recent uses).take room := by
  rw [← h.keys, List.mem_map, List.lookup_isSome_iff]
  exact exists_congr fun e => and_congr_right fun _ => beq_iff_eq.trans eq_comm

/-- What is found for a text is what reading gives. -/
theorem read_of_lookup (h : r.Holds read room uses) (hfound : r.entries.lookup key = some x) :
    read key = .ok x := by
  obtain ⟨front, back, hentries, -⟩ := List.lookup_eq_some_iff.1 hfound
  exact h.values (key, x) (by simp [hentries])

/-- An entry for the text comes to the front, and the others stay in their order. -/
theorem front (h : r.Holds read room uses) (hread : read key = .ok x) {entries : List (String × α)}
    (hkeys : entries.map (·.1) = (key :: (r.entries.map (·.1)).filter (· ≠ key)).take room)
    (hentries : ∀ e ∈ entries, e = (key, x) ∨ e ∈ r.entries) :
    ({ r with entries } : Recent α).Holds read room (uses ++ [key]) where
  capacity := h.capacity
  room_pos := h.room_pos
  keys := by
    rw [hkeys, h.keys, take_front (nodup_recent uses) h.room_pos, recent_concat]
  values e he := by
    rcases hentries e he with rfl | he
    · exact hread
    · exact h.values e he

/-- A text that is found is used. -/
theorem find? (h : r.Holds read room uses) {r' : Recent α} (hfind : r.find? key = some (x, r')) :
    r'.Holds read room (uses ++ [key]) := by
  obtain ⟨y, hfound, heq⟩ := Option.map_eq_some_iff.1 hfind
  cases heq
  have hmem : key ∈ (recent uses).take room := by
    rw [← h.lookup_isSome_iff, hfound]
    rfl
  refine h.front (h.read_of_lookup hfound) ?_ fun e he => ?_
  · rw [List.map_cons, map_filter_ne, h.keys, take_front_of_mem hmem]
  · rcases List.mem_cons.1 he with rfl | he
    · exact .inl rfl
    · exact .inr (List.mem_of_mem_filter he)

/-- A text that is put in is used. -/
theorem put (h : r.Holds read room uses) (hread : read key = .ok x) :
    (r.put key x).Holds read room (uses ++ [key]) := by
  refine h.front hread ?_ fun e he => ?_
  · rw [List.map_take, List.map_cons, map_filter_ne, h.capacity]
  · rcases List.mem_cons.1 (List.mem_of_mem_take he) with rfl | he
    · exact .inl rfl
    · exact .inr (List.mem_of_mem_filter he)

/-- A text that was used last is found as it is read, and no other text is found. -/
theorem find?_cases (h : r.Holds read room uses) (key : String) :
    (key ∈ (recent uses).take room ∧ ∃ x r', r.find? key = some (x, r') ∧ read key = .ok x) ∨
    (key ∉ (recent uses).take room ∧ r.find? key = none) := by
  rw [← h.lookup_isSome_iff, Recent.find?]
  cases hfound : r.entries.lookup key with
  | some x => exact .inl ⟨rfl, x, _, rfl, h.read_of_lookup hfound⟩
  | none => exact .inr ⟨nofun, rfl⟩

/-- A text that is asked for is used if it is read. -/
theorem ask (h : r.Holds read room uses) (key : String) :
    (r.ask read key).Holds read room (if (read key).isOk then uses ++ [key] else uses) := by
  unfold Recent.ask
  obtain ⟨-, x, r', hfind, hread⟩ | ⟨-, hfind⟩ := h.find?_cases key
  · rw [hfind, hread]
    exact h.find? hfind
  · rw [hfind]
    cases hread : read key with
    | ok x => exact h.put hread
    | error e => exact h

/-- A text that is not read changes no entry. -/
theorem ask_of_error (h : r.Holds read room uses) {e : SyntaxError} (hread : read key = .error e) :
    r.ask read key = r := by
  unfold Recent.ask
  obtain ⟨-, x, r', -, hok⟩ | ⟨-, hfind⟩ := h.find?_cases key
  · rw [hread] at hok
    cases hok
  · rw [hfind, hread]

end Holds

end Recent

/-! ## Requests -/

namespace Cache

/-- A request to a cache. -/
inductive Request where
  | statement (text : String)
  | selection (text : String)
  | clear
  deriving DecidableEq

/-- The cache after a request. -/
def perform (c : Cache) : Request → Cache
  | .statement text => (c.statement text).2
  | .selection text => (c.selection text).2
  | .clear => c.clear

/-- The cache after several requests. -/
def after (c : Cache) (requests : List Request) : Cache := requests.foldl perform c

/-- The text of a request for a statement, without the blanks around it. -/
def Request.statement? : Request → Option String
  | .statement text => some (Text.trim text)
  | _ => none

/-- The text of a request for a selection, without the blanks around it. -/
def Request.selection? : Request → Option String
  | .selection text => some (Text.trim text)
  | _ => none

/-- The texts that were asked for and read since the last clearing, from the first to the last. -/
def used {α : Type} (text? : Request → Option String) (read : String → Except SyntaxError α)
    (requests : List Request) : List String :=
  ((requests.rtakeWhile (· ≠ .clear)).filterMap text?).filter fun text => (read text).isOk

section Requests

variable {α : Type} {text? : Request → Option String} {read : String → Except SyntaxError α}
  {requests : List Request} {request : Request} {text : String}

/-- A clearing ends all uses. -/
theorem used_clear : used text? read (requests ++ [.clear]) = [] := by
  rw [used, List.rtakeWhile_concat, if_neg (by simp)]
  rfl

/-- A request of another kind uses nothing. -/
theorem used_of_none (hclear : request ≠ .clear) (h : text? request = none) :
    used text? read (requests ++ [request]) = used text? read requests := by
  rw [used, List.rtakeWhile_concat, if_pos (by simpa using hclear), List.filterMap_append]
  simp [used, h]

/-- A request uses its text if that is read. -/
theorem used_of_some (hclear : request ≠ .clear) (h : text? request = some text) :
    used text? read (requests ++ [request])
      = if (read text).isOk then used text? read requests ++ [text]
        else used text? read requests := by
  rw [used, List.rtakeWhile_concat, if_pos (by simpa using hclear), List.filterMap_append,
    List.filter_append]
  split
  case isTrue hread => simp [used, h, hread]
  case isFalse hread => simp [used, h, hread]

end Requests

/-- What one request for a text comes to: the answer is that of the reader, the text is a hit if it
is one of those that were used last, and a text that is not read changes no entry. -/
structure Serves {α : Type} (c c' : Cache) (answer : Except SyntaxError α)
    (read : String → Except SyntaxError α) (held : List String) (text : String) : Prop where
  answer : answer = read text
  hits : c'.hits = c.hits + if text ∈ held then 1 else 0
  misses : c'.misses = c.misses + if text ∈ held then 0 else 1
  refused : ∀ e, read text = .error e →
    c'.statements = c.statements ∧ c'.selections = c.selections

section Steps

variable {c : Cache} {room : Nat} {uses : List String}

/-- What a request for a statement comes to. -/
theorem statement_eq (h : c.statements.Holds readStatement room uses) (text : String) :
    c.statement text = (readStatement (Text.trim text),
      { c with
        statements := c.statements.ask readStatement (Text.trim text)
        hits := c.hits + if Text.trim text ∈ (recent uses).take room then 1 else 0
        misses := c.misses + if Text.trim text ∈ (recent uses).take room then 0 else 1 }) := by
  unfold statement Recent.ask
  dsimp only
  generalize Text.trim text = key
  obtain ⟨hheld, s, found, hfind, hread⟩ | ⟨hheld, hfind⟩ := h.find?_cases key
  · rw [hfind, hread, if_pos hheld, if_pos hheld]
    rfl
  · rw [hfind, if_neg hheld, if_neg hheld]
    cases readStatement key with
    | ok s => rfl
    | error e => rfl

/-- What a request for a selection comes to. -/
theorem selection_eq (h : c.selections.Holds readSelection room uses) (text : String) :
    c.selection text = (readSelection (Text.trim text),
      { c with
        selections := c.selections.ask readSelection (Text.trim text)
        hits := c.hits + if Text.trim text ∈ (recent uses).take room then 1 else 0
        misses := c.misses + if Text.trim text ∈ (recent uses).take room then 0 else 1 }) := by
  unfold selection Recent.ask
  dsimp only
  generalize Text.trim text = key
  obtain ⟨hheld, s, found, hfind, hread⟩ | ⟨hheld, hfind⟩ := h.find?_cases key
  · rw [hfind, hread, if_pos hheld, if_pos hheld]
    rfl
  · rw [hfind, if_neg hheld, if_neg hheld]
    cases readSelection key with
    | ok s => rfl
    | error e => rfl

/-- The cache holds what the requests used last, and has counted each of them once. -/
structure Follows (c : Cache) (room : Nat) (requests : List Request) : Prop where
  statements : c.statements.Holds readStatement room
    (used Request.statement? readStatement requests)
  selections : c.selections.Holds readSelection room
    (used Request.selection? readSelection requests)
  counted : c.hits + c.misses = requests.countP (· ≠ .clear)

/-- A hit or a miss is counted. -/
theorem count_hit (hits misses : Nat) (p : Prop) [Decidable p] :
    (hits + if p then 1 else 0) + (misses + if p then 0 else 1) = hits + misses + 1 := by
  split <;> omega

namespace Follows

variable {requests : List Request}

/-- A new cache has followed no requests. -/
theorem ofLimit (limit : Nat) : (Cache.ofLimit limit).Follows (max limit 1) [] :=
  ⟨.ofLimit limit readStatement, .ofLimit limit readSelection, rfl⟩

/-- A cache follows one more request. -/
theorem perform (h : c.Follows room requests) (request : Request) :
    (c.perform request).Follows room (requests ++ [request]) := by
  cases request with
  | statement text =>
      rw [Cache.perform, statement_eq h.statements text]
      refine ⟨?_, ?_, ?_⟩
      · rw [used_of_some (by simp) rfl]
        exact h.statements.ask (Text.trim text)
      · rw [used_of_none (by simp) rfl]
        exact h.selections
      · rw [count_hit, h.counted, List.countP_append]
        rfl
  | selection text =>
      rw [Cache.perform, selection_eq h.selections text]
      refine ⟨?_, ?_, ?_⟩
      · rw [used_of_none (by simp) rfl]
        exact h.statements
      · rw [used_of_some (by simp) rfl]
        exact h.selections.ask (Text.trim text)
      · rw [count_hit, h.counted, List.countP_append]
        rfl
  | clear =>
      refine ⟨?_, ?_, ?_⟩
      · rw [used_clear]
        exact h.statements.clear
      · rw [used_clear]
        exact h.selections.clear
      · rw [List.countP_append]
        exact h.counted

/-- A cache follows all requests. -/
theorem after (h : c.Follows room requests) (more : List Request) :
    (c.after more).Follows room (requests ++ more) := by
  induction more generalizing c requests with
  | nil => rwa [List.append_nil]
  | cons request rest ih =>
      rw [← List.singleton_append, ← List.append_assoc]
      exact ih (h.perform request)

/-- The next request for a statement is served from what was used last. -/
theorem serves_statement (h : c.Follows room requests) (text : String) :
    Serves c (c.statement text).2 (c.statement text).1 readStatement
      ((recent (used Request.statement? readStatement requests)).take room) (Text.trim text) := by
  rw [statement_eq h.statements text]
  dsimp only
  refine ⟨rfl, rfl, rfl, fun _ hread => ?_⟩
  have hkept := h.statements.ask_of_error hread
  exact ⟨hkept, rfl⟩

/-- The next request for a selection is served from what was used last. -/
theorem serves_selection (h : c.Follows room requests) (text : String) :
    Serves c (c.selection text).2 (c.selection text).1 readSelection
      ((recent (used Request.selection? readSelection requests)).take room) (Text.trim text) := by
  rw [selection_eq h.selections text]
  dsimp only
  refine ⟨rfl, rfl, rfl, fun _ hread => ?_⟩
  have hkept := h.selections.ask_of_error hread
  exact ⟨rfl, hkept⟩

end Follows

end Steps

/-- Whatever requests a cache has served, it holds the texts of each kind that were used last since
it was cleared, as many as there is room for, in this order. The next request is answered as the
reader answers it; it is a hit if its text is one of them; and if it is not read then no entry
comes, goes or moves. Every request for a text was either a hit or a miss. -/
theorem serves_recent (limit : Nat) (requests : List Request) :
    let c := (Cache.ofLimit limit).after requests
    let room := max limit 1
    let statements := (recent (used Request.statement? readStatement requests)).take room
    let selections := (recent (used Request.selection? readSelection requests)).take room
    (∀ text, Serves c (c.statement text).2 (c.statement text).1 readStatement statements
      (Text.trim text)) ∧
    (∀ text, Serves c (c.selection text).2 (c.selection text).1 readSelection selections
      (Text.trim text)) ∧
    c.statements.entries.map (·.1) = statements ∧ c.selections.entries.map (·.1) = selections ∧
    c.statements.size ≤ room ∧ c.selections.size ≤ room ∧
    c.hits + c.misses = requests.countP (· ≠ .clear) := by
  have hfollows : ((Cache.ofLimit limit).after requests).Follows (max limit 1) requests :=
    (Follows.ofLimit limit).after requests
  exact ⟨hfollows.serves_statement, hfollows.serves_selection, hfollows.statements.keys,
    hfollows.selections.keys, hfollows.statements.size_le, hfollows.selections.size_le,
    hfollows.counted⟩

end Cache

end SiteIndex.Query
