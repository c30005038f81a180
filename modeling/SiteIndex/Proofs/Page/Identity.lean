import Mathlib.Data.Set.Function
import SiteIndex.Files.Memory
import SiteIndex.Page.Stub
import SiteIndex.Proofs.Bytes
import SiteIndex.Proofs.Outcome
import SiteIndex.Proofs.Text.Utf8

/-!
# What a shasum is made of

The shasum of a stub is the digest of a place and of the digest of a content. The four `Parts` are
separated by zero bytes, which paths may contain. Mount points and languages without NUL can be read
from the front and the digits of a content from the end, so that the path is what is left between
them: sound parts are told by their bytes (`Parts.eq_of_bytes`), and as far as digests tell byte
strings apart, by the shasum as well (`shasum_eq_iff`).

An `Origin` has the content itself. Its shasum always tells the content, and within one mount and
language the path (`Origin.bytes_eq`, `Origin.source_eq`). More is not to be had if mount points or
languages contain NUL; otherwise the shasum tells all (`Origin.eq_of_shasum`).
-/

namespace SiteIndex

namespace Bytes

/-- A hexadecimal digit is read back. -/
theorem hexDigit?_digitChar {n : Nat} (h : n < 16) : hexDigit? (Nat.digitChar n) = some n := by
  revert n
  decide

/-- Hexadecimal text is read back. -/
theorem ofHex?_hex (bytes : Bytes) : ofHex? (hex bytes) = some bytes := by
  rw [ofHex?, hex, String.toList_ofList]
  induction bytes with
  | nil => rfl
  | cons b bytes ih =>
      have hb := b.toNat_lt
      have hvalue : UInt8.ofNat (16 * (b.toNat / 16) + b.toNat % 16) = b := by
        rw [Nat.div_add_mod, UInt8.ofNat_toNat]
      rw [List.flatMap_cons, hexByte, List.cons_append, List.cons_append, List.nil_append,
        ofHexChars?, hexDigit?_digitChar (by omega), hexDigit?_digitChar (by omega), ih]
      show some (UInt8.ofNat (16 * (b.toNat / 16) + b.toNat % 16) :: bytes) = _
      rw [hvalue]

/-- Byte strings with the same hexadecimal text are the same. -/
theorem hex_injective {a b : Bytes} (h : hex a = hex b) : a = b := by
  have ha := ofHex?_hex a
  rw [h, ofHex?_hex] at ha
  exact (Option.some.inj ha).symm

/-- Two digits are written for each byte. -/
theorem length_hex (bytes : Bytes) : (hex bytes).toList.length = 2 * bytes.length := by
  rw [hex, String.toList_ofList]
  induction bytes with
  | nil => rfl
  | cons b bytes ih =>
      rw [List.flatMap_cons, List.length_append, ih, hexByte, List.length_cons]
      simp only [List.length_cons, List.length_nil]
      omega

/-- Hexadecimal text has hexadecimal digits only. -/
theorem isSome_hexDigit?_of_mem_hex {bytes : Bytes} {c : Char} (h : c ∈ (hex bytes).toList) :
    (hexDigit? c).isSome = true := by
  rw [hex, String.toList_ofList, List.mem_flatMap] at h
  obtain ⟨b, -, hmem⟩ := h
  have hb := b.toNat_lt
  simp only [hexByte, List.mem_cons, List.not_mem_nil, or_false] at hmem
  rcases hmem with rfl | rfl
  · rw [hexDigit?_digitChar (by omega)]
    rfl
  · rw [hexDigit?_digitChar (by omega)]
    rfl

/-- There is no NUL in a text of hexadecimal digits. -/
theorem zero_not_mem_of_digits {text : String}
    (h : ∀ c ∈ text.toList, (hexDigit? c).isSome = true) : 0 ∉ Text.Utf8.encode text := by
  rw [Text.Utf8.zero_mem_encode_iff]
  intro hmem
  have hnul : (hexDigit? '\x00').isSome = false := by decide
  rw [h _ hmem] at hnul
  cases hnul

/-- There is no NUL in hexadecimal text. -/
theorem zero_not_mem_encode_hex (bytes : Bytes) : 0 ∉ Text.Utf8.encode (hex bytes) :=
  zero_not_mem_of_digits fun _ => isSome_hexDigit?_of_mem_hex

/-- What stands before the last zero byte and what comes after it. -/
theorem append_zero_inj_last {a b r s : Bytes} (hr : 0 ∉ r) (hs : 0 ∉ s)
    (h : a ++ 0 :: r = b ++ 0 :: s) : a = b ∧ r = s := by
  have hreverse : r.reverse ++ 0 :: a.reverse = s.reverse ++ 0 :: b.reverse := by
    simpa using congrArg List.reverse h
  obtain ⟨hrs, hab⟩ := append_zero_inj (by simpa using hr) (by simpa using hs) hreverse
  exact ⟨List.reverse_inj.1 hab, List.reverse_inj.1 hrs⟩

end Bytes

namespace Page

open Files (FileSystem MemoryFiles contentShasum)
open Text.Utf8 (encode)

/-- The bytes of an identity end with those of the digest of the content. -/
theorem identityBytes_append (mount language source content : String) :
    identityBytes mount language source content
      = (encode mount ++ 0 :: (encode language ++ 0 :: encode source)) ++ 0 :: encode content
        ++ [0] := by
  simp [identityBytes]

/-! ## The parts of an identity -/

/-- Sixty-four hexadecimal digits, which a content is known by. -/
structure IsDigest (text : String) : Prop where
  length : text.toList.length = 64
  digits : ∀ c ∈ text.toList, (Bytes.hexDigit? c).isSome = true

instance (text : String) : Decidable (IsDigest text) :=
  decidable_of_iff
    (text.toList.length = 64 ∧ text.toList.all (fun c => (Bytes.hexDigit? c).isSome) = true)
    ⟨fun h => ⟨h.1, List.all_eq_true.1 h.2⟩, fun h => ⟨h.length, List.all_eq_true.2 h.digits⟩⟩

/-- A digest has thirty-two bytes. -/
theorem length_sha256 (message : Bytes) : (Digest.sha256 message).length = 32 := by
  simp [Digest.sha256, Digest.State.bytes]

/-- A content is known by the digits of its digest. -/
theorem isDigest_contentShasum (bytes : Bytes) : IsDigest (contentShasum bytes) where
  length := by rw [contentShasum, Bytes.length_hex, length_sha256]
  digits _ := Bytes.isSome_hexDigit?_of_mem_hex

/-- The four texts that an identity is made of. -/
structure Parts where
  mount : String
  language : String
  source : String
  /-- The digest of the content. -/
  content : String
  deriving DecidableEq

namespace Parts

/-- The bytes whose digest is the shasum. -/
def bytes (p : Parts) : Bytes := identityBytes p.mount p.language p.source p.content

/-- Mount point and language have no NUL, and the content is known by a digest. Any text may be
the path. -/
structure Sound (p : Parts) : Prop where
  mount : '\x00' ∉ p.mount.toList
  language : '\x00' ∉ p.language.toList
  content : IsDigest p.content

instance (p : Parts) : Decidable p.Sound :=
  decidable_of_iff
    ('\x00' ∉ p.mount.toList ∧ '\x00' ∉ p.language.toList ∧ IsDigest p.content)
    ⟨fun h => ⟨h.1, h.2.1, h.2.2⟩, fun h => ⟨h.mount, h.language, h.content⟩⟩

/-- A stub that is made of a file in some file system, with the content that it has there. -/
def Names (p : Parts) (stub : Stub) : Prop :=
  ∃ (files : FileSystem) (fallback : String), files.shasum p.source = .ok p.content ∧
    Stub.ofFile files p.source p.mount p.language fallback = .ok stub

variable {p q : Parts}

/-- Sound parts are told by their bytes: mount point and language end with the first zero bytes,
and the content starts behind the last one but one. -/
theorem eq_of_bytes (hp : p.Sound) (hq : q.Sound) (h : p.bytes = q.bytes) : p = q := by
  have hmount := hp.mount
  have hmount' := hq.mount
  have hlanguage := hp.language
  have hlanguage' := hq.language
  rw [← Text.Utf8.zero_mem_encode_iff] at hmount hmount' hlanguage hlanguage'
  rw [bytes, bytes, identityBytes_append, identityBytes_append] at h
  -- The path may hold zero bytes, so the content is cut off at the other end first.
  obtain ⟨hplace, hcontent⟩ := Bytes.append_zero_inj_last
    (Bytes.zero_not_mem_of_digits hp.content.digits)
    (Bytes.zero_not_mem_of_digits hq.content.digits) (List.append_cancel_right h)
  obtain ⟨hsamemount, hrest⟩ := Bytes.append_zero_inj hmount hmount' hplace
  obtain ⟨hsamelanguage, hsource⟩ := Bytes.append_zero_inj hlanguage hlanguage' hrest
  cases p
  cases q
  rw [mk.injEq]
  exact ⟨Text.Utf8.encode_injective hsamemount, Text.Utf8.encode_injective hsamelanguage,
    Text.Utf8.encode_injective hsource, Text.Utf8.encode_injective hcontent⟩

/-- A file has a stub if its content is known. -/
theorem exists_names {files : FileSystem} (h : files.shasum p.source = .ok p.content) :
    ∃ stub, p.Names stub := by
  have hstub : Stub.ofFile files p.source p.mount p.language "" = .ok
      { shasum := identity p.mount p.language p.source p.content, source := p.source
        mount := p.mount, language := p.language, fallback := "" } := by
    rw [Stub.ofFile, h]
    rfl
  exact ⟨_, files, "", h, hstub⟩

/-- A stub has the place of its parts, and the digest of their bytes. -/
theorem Names.fields {stub : Stub} (h : p.Names stub) :
    stub.mount = p.mount ∧ stub.language = p.language ∧ stub.source = p.source ∧
      stub.shasum = Bytes.hex (Digest.sha256 p.bytes) := by
  obtain ⟨files, fallback, hcontent, hstub⟩ := h
  rw [Stub.ofFile, hcontent] at hstub
  cases hstub
  exact ⟨rfl, rfl, rfl, rfl⟩

end Parts

/-- What the shasum of a stub is made of. -/
structure Origin where
  mount : String
  language : String
  source : String
  bytes : Bytes
  deriving DecidableEq

namespace Origin

/-- The shasum of a stub with this origin. -/
def shasum (o : Origin) : String := identity o.mount o.language o.source (contentShasum o.bytes)

/-- The parts of its identity. -/
def parts (o : Origin) : Parts := ⟨o.mount, o.language, o.source, contentShasum o.bytes⟩

/-- The byte strings that are hashed for it. -/
def hashed (o : Origin) : List Bytes :=
  [o.bytes, identityBytes o.mount o.language o.source (contentShasum o.bytes)]

/-- No two byte strings that are hashed for some origins have the same digest. -/
def Collisionless (origins : List Origin) : Prop :=
  Set.InjOn Digest.sha256 {bytes | ∃ o ∈ origins, bytes ∈ o.hashed}

section Apart

variable {o o' : Origin} {origins : List Origin}

/-- One origin collides with nothing, however often it is there, if its identity does not collide
with its content. -/
theorem collisionless_of_forall_eq (h : ∀ o' ∈ origins, o' = o)
    (hdigests : ∀ x ∈ o.hashed, ∀ y ∈ o.hashed, Digest.sha256 x = Digest.sha256 y → x = y) :
    Collisionless origins := by
  rintro x ⟨o₁, ho₁, hx⟩ y ⟨o₂, ho₂, hy⟩
  rw [h o₁ ho₁] at hx
  rw [h o₂ ho₂] at hy
  exact hdigests x hx y hy

/-- If nothing collides, the same shasum is made of the same bytes. -/
theorem identityBytes_eq (hapart : Collisionless origins) (ho : o ∈ origins) (ho' : o' ∈ origins)
    (h : o.shasum = o'.shasum) :
    identityBytes o.mount o.language o.source (contentShasum o.bytes)
      = identityBytes o'.mount o'.language o'.source (contentShasum o'.bytes) :=
  hapart ⟨o, ho, by simp [hashed]⟩ ⟨o', ho', by simp [hashed]⟩ (Bytes.hex_injective h)

/-- If nothing collides, the same shasum is made of the same content. -/
theorem bytes_eq (hapart : Collisionless origins) (ho : o ∈ origins) (ho' : o' ∈ origins)
    (h : o.shasum = o'.shasum) : o.bytes = o'.bytes := by
  have hbytes := identityBytes_eq hapart ho ho' h
  rw [identityBytes_append, identityBytes_append] at hbytes
  obtain ⟨-, hcontent⟩ := Bytes.append_zero_inj_last (Bytes.zero_not_mem_encode_hex _)
    (Bytes.zero_not_mem_encode_hex _) (List.append_cancel_right hbytes)
  have hdigest := Bytes.hex_injective (Text.Utf8.encode_injective hcontent)
  exact hapart ⟨o, ho, by simp [hashed]⟩ ⟨o', ho', by simp [hashed]⟩ hdigest

/-- If nothing collides, the same shasum in one mount and language is made of the same path. -/
theorem source_eq (hapart : Collisionless origins) (ho : o ∈ origins) (ho' : o' ∈ origins)
    (h : o.shasum = o'.shasum) (hmount : o.mount = o'.mount)
    (hlanguage : o.language = o'.language) : o.source = o'.source := by
  have hbytes := identityBytes_eq hapart ho ho' h
  rw [identityBytes_append, identityBytes_append, hmount, hlanguage] at hbytes
  obtain ⟨hplace, -⟩ := Bytes.append_zero_inj_last (Bytes.zero_not_mem_encode_hex _)
    (Bytes.zero_not_mem_encode_hex _) (List.append_cancel_right hbytes)
  have hsource := (List.cons.inj (List.append_cancel_left hplace)).2
  exact Text.Utf8.encode_injective (List.cons.inj (List.append_cancel_left hsource)).2

/-- If nothing collides, and neither mount points nor languages contain zero bytes, the same shasum
is made of the same origin. -/
theorem eq_of_shasum (hapart : Collisionless origins) (ho : o ∈ origins) (ho' : o' ∈ origins)
    (h : o.shasum = o'.shasum) (hmount : '\x00' ∉ o.mount.toList)
    (hmount' : '\x00' ∉ o'.mount.toList) (hlanguage : '\x00' ∉ o.language.toList)
    (hlanguage' : '\x00' ∉ o'.language.toList) : o = o' := by
  have hsound : o.parts.Sound := ⟨hmount, hlanguage, isDigest_contentShasum _⟩
  have hsound' : o'.parts.Sound := ⟨hmount', hlanguage', isDigest_contentShasum _⟩
  have hparts := Parts.eq_of_bytes hsound hsound' (identityBytes_eq hapart ho ho' h)
  obtain ⟨hsamemount, hsamelanguage, hsource, -⟩ := Parts.mk.inj hparts
  cases o
  cases o'
  rw [mk.injEq]
  exact ⟨hsamemount, hsamelanguage, hsource, bytes_eq hapart ho ho' h⟩

end Apart

end Origin

/-! ## Stubs with the same shasum -/

/-- The bytes that are hashed for sound parts tell the parts, also if the path holds zero bytes.
Where different bytes that are hashed have different digests, two stubs of files have the same
shasum if and only if they are of the same mount, language, path and content. -/
theorem shasum_eq_iff :
    (∀ p q : Parts, p.Sound → q.Sound → p.bytes = q.bytes →
      p.mount = q.mount ∧ p.language = q.language ∧ p.source = q.source ∧
        p.content = q.content) ∧
    ∀ known : Set Parts, (∀ p ∈ known, p.Sound) →
      Set.InjOn Digest.sha256 (Parts.bytes '' known) →
      ∀ p ∈ known, ∀ q ∈ known, ∀ stub stub' : Stub, p.Names stub → q.Names stub' →
        (stub.shasum = stub'.shasum ↔
          stub.mount = stub'.mount ∧ stub.language = stub'.language ∧
            stub.source = stub'.source ∧ p.content = q.content) := by
  refine ⟨fun p q hp hq hbytes => ?_, fun known hsound hapart p hp q hq stub stub' hs hs' => ?_⟩
  · obtain rfl := Parts.eq_of_bytes hp hq hbytes
    exact ⟨rfl, rfl, rfl, rfl⟩
  · obtain ⟨hmount, hlanguage, hsource, hshasum⟩ := hs.fields
    obtain ⟨hmount', hlanguage', hsource', hshasum'⟩ := hs'.fields
    rw [hmount, hmount', hlanguage, hlanguage', hsource, hsource', hshasum, hshasum']
    constructor
    · intro h
      have hbytes := hapart (Set.mem_image_of_mem _ hp) (Set.mem_image_of_mem _ hq)
        (Bytes.hex_injective h)
      obtain rfl := Parts.eq_of_bytes (hsound p hp) (hsound q hq) hbytes
      exact ⟨rfl, rfl, rfl, rfl⟩
    · rintro ⟨hsamemount, hsamelanguage, hsamesource, hcontent⟩
      rw [Parts.bytes, Parts.bytes, hsamemount, hsamelanguage, hsamesource, hcontent]

/-- The digest of no content. -/
def emptyDigest : String := "e3b0c44298fc1c149afbf4c8996fb92427ae41e4649b934ca495991b7852b855"

/-- An empty file, and another one whose path goes on with a NUL and the digest of its content. -/
def echoing : MemoryFiles :=
  (({ name := "site" } : MemoryFiles).write "a" ⟨[], .epoch, .epoch⟩).write
    ("a\x00" ++ emptyDigest) ⟨[], .epoch, .epoch⟩

/-- The bytes for the longer path are those for the shorter one and a digest more. -/
theorem shasum_eq_iff_echoing :
    let p : Parts := ⟨"/", "en", "a", emptyDigest⟩
    let q : Parts := ⟨"/", "en", "a\x00" ++ emptyDigest, emptyDigest⟩
    p.bytes ≠ q.bytes ∧ ∃ stub stub', p.Names stub ∧ q.Names stub' ∧
      stub.shasum ≠ stub'.shasum := by
  intro p q
  have hdigits : contentShasum [] = emptyDigest := by decide +kernel
  have hsound : ∀ r ∈ ({p, q} : Set Parts), r.Sound := by
    have hcontent : IsDigest emptyDigest := hdigits ▸ isDigest_contentShasum []
    rintro r (rfl | rfl)
    · exact ⟨by decide +kernel, by decide +kernel, hcontent⟩
    · exact ⟨by decide +kernel, by decide +kernel, hcontent⟩
  have hp : p ∈ ({p, q} : Set Parts) := Set.mem_insert ..
  have hq : q ∈ ({p, q} : Set Parts) := Set.mem_insert_of_mem _ rfl
  have hsource : p.source ≠ q.source := by decide +kernel
  have hdigest : Digest.sha256 p.bytes ≠ Digest.sha256 q.bytes := by decide +kernel
  have hapart : Set.InjOn Digest.sha256 (Parts.bytes '' {p, q}) := by
    rw [Set.image_pair]
    rintro _ (rfl | rfl) _ (rfl | rfl) h
    · rfl
    · exact absurd h hdigest
    · exact absurd h.symm hdigest
    · rfl
  have hempty : ∀ path, (echoing.find path).map (·.bytes) = .ok [] →
      echoing.view.shasum path = .ok emptyDigest := by
    intro path hpath
    obtain ⟨file, hfile, hbytes⟩ := map_eq_ok_iff.1 hpath
    simp only [MemoryFiles.view, hfile, Except.map, hbytes, hdigits]
  obtain ⟨stub, hstub⟩ := Parts.exists_names (p := p) (hempty "a" (by decide +kernel))
  obtain ⟨stub', hstub'⟩ :=
    Parts.exists_names (p := q) (hempty ("a\x00" ++ emptyDigest) (by decide +kernel))
  refine ⟨fun h => ?_, stub, stub', hstub, hstub', fun h => ?_⟩
  · exact hsource (shasum_eq_iff.1 p q (hsound p hp) (hsound q hq) h).2.2.1
  · have htold := (shasum_eq_iff.2 {p, q} hsound hapart p hp q hq stub stub' hstub hstub').1 h
    obtain ⟨-, -, hstubSource, -⟩ := hstub.fields
    obtain ⟨-, -, hstubSource', -⟩ := hstub'.fields
    rw [hstubSource, hstubSource'] at htold
    exact hsource htold.2.2.1

end Page

end SiteIndex
