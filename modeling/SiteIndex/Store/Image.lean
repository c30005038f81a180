import SiteIndex.Store.Driver

/-!
# Images of stores

The file of a store holds a mark of its backend, which is no text, and then the entries in the
order of their keys, key and value each with its length in front. An empty file is a store
without entries.
-/

namespace SiteIndex.Store.Image

/-- The bytes that the file of a backend starts with. -/
def mark : BackendKind → Bytes
  | .memory => [0xC8, 0x00]
  | .redb => [0xC8, 0x01]
  | .sqlite => [0xC8, 0x02]

/-- A byte string with its length in front. -/
def frame (bytes : Bytes) : Bytes := Bytes.bigEndian 4 bytes.length ++ bytes

/-- The image of a store. -/
def encode (backend : BackendKind) (m : OrderedMap Bytes) : Bytes :=
  mark backend ++ m.entries.flatMap fun (key, value) => frame key ++ frame value

/-- A byte string with its length in front, and what comes after it. -/
def splitFrame? (bytes : Bytes) : Option (Bytes × Bytes) :=
  let length := Bytes.bigEndianValue (bytes.take 4)
  let rest := bytes.drop 4
  if bytes.length < 4 ∨ rest.length < length then none
  else some (rest.take length, rest.drop length)

/-- A frame takes bytes away. -/
theorem length_of_splitFrame? {bytes front rest : Bytes}
    (h : splitFrame? bytes = some (front, rest)) : rest.length < bytes.length := by
  simp only [splitFrame?] at h
  split at h
  · simp at h
  · simp only [Option.some.injEq, Prod.mk.injEq] at h
    simp [← h.2]
    omega

/-- The entries of an image after its mark. -/
def readEntries (bytes : Bytes) : Option (List (Bytes × Bytes)) :=
  if bytes = [] then some []
  else
    match _ : splitFrame? bytes with
    | none => none
    | some (key, rest) =>
      match _ : splitFrame? rest with
      | none => none
      | some (value, rest) => (readEntries rest).map ((key, value) :: ·)
termination_by bytes.length
decreasing_by
  have := length_of_splitFrame? ‹splitFrame? bytes = _›
  have := length_of_splitFrame? ‹splitFrame? _ = some (_, rest)›
  omega

/-- The store of an image, if it is one of the backend. -/
def decode? (backend : BackendKind) (bytes : Bytes) : Option (OrderedMap Bytes) :=
  if bytes = [] then some ∅
  else if (mark backend).isPrefixOf bytes then
    (readEntries (bytes.drop (mark backend).length)).map fun entries =>
      entries.foldl (fun m e => m.insert e.1 e.2) ∅
  else none

end SiteIndex.Store.Image
