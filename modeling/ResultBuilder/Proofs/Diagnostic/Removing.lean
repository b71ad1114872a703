import ResultBuilder.Proofs.Diagnostic.Usable

/-!
# Removing several places

The edits of a suggestion are made from the last to the first, so that an edit finds what is in front
of it as it was. When they remove places that follow each other, that comes to removing all of the
places at once: what is left are the bytes outside of them.

* **`Source.bytesOutside`**: the bytes that lie in none of some places.
* **`Edit.bytes_foldr_remove`**: what is left when places that follow each other are removed.
-/

namespace ResultBuilder

open Source (utf8Length)
open Syntax (OnBoundary)

/-! ### Bytes -/

namespace Source

/-- The bytes of a text. -/
def bytes (text : String) : List UInt8 :=
  text.toByteArray.data.toList

/-- The bytes of the UTF-8 form of some characters. -/
def utf8Bytes (text : List Char) : List UInt8 :=
  text.flatMap String.utf8EncodeChar

theorem bytes_eq (text : String) : bytes text = utf8Bytes text.toList := by
  rw [bytes, ← String.utf8Encode_toList]
  simp [List.utf8Encode, utf8Bytes]

theorem utf8Bytes_append (front back : List Char) :
    utf8Bytes (front ++ back) = utf8Bytes front ++ utf8Bytes back :=
  List.flatMap_append

@[simp] theorem length_utf8Bytes (text : List Char) : (utf8Bytes text).length = utf8Length text := by
  induction text with
  | nil => rfl
  | cons c rest ih =>
      rw [utf8Bytes, List.flatMap_cons, List.length_append, String.length_utf8EncodeChar]
      exact congrArg (c.utf8Size + ·) ih

/-- **The bytes outside of some places**, in order. The first byte has the offset that is given. -/
def bytesOutside (places : List Span) (offset : Nat) (bytes : List UInt8) : List UInt8 :=
  ((bytes.zipIdx offset).filter fun byte =>
    places.all fun place => byte.2 < place.start || place.stop ≤ byte.2).map Prod.fst

section Outside

variable {places : List Span} {offset : Nat} {bytes : List UInt8}

theorem bytesOutside_append (front back : List UInt8) :
    bytesOutside places offset (front ++ back) =
      bytesOutside places offset front ++ bytesOutside places (offset + front.length) back := by
  rw [bytesOutside, List.zipIdx_append, List.filter_append, List.map_append]
  rfl

/-- Bytes in front of all places are kept. -/
theorem bytesOutside_of_before (before : ∀ place ∈ places, offset + bytes.length ≤ place.start) :
    bytesOutside places offset bytes = bytes := by
  have kept : ∀ byte ∈ bytes.zipIdx offset, (places.all fun place =>
      byte.2 < place.start || place.stop ≤ byte.2) = true := by
    intro byte listed
    refine List.all_eq_true.mpr fun place isPlace => ?_
    have inside := (List.mem_zipIdx listed).2.1
    have := before place isPlace
    simp only [Bool.or_eq_true, decide_eq_true_eq]
    omega
  rw [bytesOutside, List.filter_eq_self.mpr kept, List.zipIdx_map_fst]

/-- Bytes inside one of the places are not. -/
theorem bytesOutside_of_inside {place : Span} (isPlace : place ∈ places)
    (starts : place.start ≤ offset) (stops : offset + bytes.length ≤ place.stop) :
    bytesOutside places offset bytes = [] := by
  have dropped : ∀ byte ∈ bytes.zipIdx offset, ¬ (places.all fun place =>
      byte.2 < place.start || place.stop ≤ byte.2) = true := by
    intro byte listed all
    have inside := List.mem_zipIdx listed
    have outside := List.all_eq_true.mp all place isPlace
    simp only [Bool.or_eq_true, decide_eq_true_eq] at outside
    omega
  rw [bytesOutside, List.filter_eq_nil_iff.mpr dropped, List.map_nil]

/-- A place in front of all bytes does not count. -/
theorem bytesOutside_cons_of_behind {place : Span} (behind : place.stop ≤ offset) :
    bytesOutside (place :: places) offset bytes = bytesOutside places offset bytes := by
  have same : ∀ byte ∈ bytes.zipIdx offset,
      ((place :: places).all fun place => byte.2 < place.start || place.stop ≤ byte.2) =
        places.all fun place => byte.2 < place.start || place.stop ≤ byte.2 := by
    intro byte listed
    have passed : place.stop ≤ byte.2 := Nat.le_trans behind (List.mem_zipIdx listed).1
    rw [List.all_cons, decide_eq_true passed, Bool.or_true, Bool.true_and]
  rw [bytesOutside, bytesOutside, List.filter_congr same]

end Outside

end Source

/-! ### Removals -/

open Source

namespace Edit

/-- The places in the back of a text are removed, and its front stays. -/
theorem exists_rest_foldr_remove {source : String} {places : List Span}
    (usable : ∀ place ∈ places, place.IsUsable source.toList)
    (apart : places.Pairwise fun first second => first.stop ≤ second.start)
    {front back : List Char} (whole : source.toList = front ++ back)
    (behind : ∀ place ∈ places, utf8Length front ≤ place.start) :
    ∃ rest, ((places.map remove).foldr apply source).toList = front ++ rest ∧
      utf8Bytes rest = bytesOutside places (utf8Length front) (utf8Bytes back) := by
  induction places generalizing front back with
  | nil => exact ⟨back, whole, (bytesOutside_of_before (List.forall_mem_nil _)).symm⟩
  | cons place others ih =>
      obtain ⟨isUsable, othersUsable⟩ := List.forall_mem_cons.mp usable
      obtain ⟨before, othersApart⟩ := List.pairwise_cons.mp apart
      obtain ⟨kept, middle, rfl, start⟩ :=
        isUsable.starts.exists_behind whole (behind place List.mem_cons_self)
      rw [← List.append_assoc] at whole
      obtain ⟨removed, back, rfl, stop⟩ :=
        isUsable.stops.exists_behind whole (start ▸ isUsable.ordered)
      rw [← List.append_assoc] at whole
      obtain ⟨rest, later, bytesLater⟩ := ih othersUsable othersApart whole
        (fun other listed => stop ▸ before other listed)
      refine ⟨kept ++ rest, ?_, ?_⟩
      · rw [List.append_assoc (front ++ kept)] at later
        rw [List.map_cons, List.foldr_cons, remove, ← replace, apply_replace later start stop]
        simp
      · -- in front of the place, inside of it, and behind it
        have first : bytesOutside (place :: others) (utf8Length front) (utf8Bytes kept) =
            utf8Bytes kept := by
          refine bytesOutside_of_before ?_
          rw [length_utf8Bytes, ← utf8Length_append, start]
          exact List.forall_mem_cons.mpr ⟨Nat.le_refl _, fun other listed =>
            Nat.le_trans isUsable.ordered (before other listed)⟩
        have second : bytesOutside (place :: others) place.start (utf8Bytes removed) = [] := by
          refine bytesOutside_of_inside List.mem_cons_self (Nat.le_refl _) (Nat.le_of_eq ?_)
          rw [length_utf8Bytes, ← start, ← utf8Length_append, stop]
        have third : bytesOutside (place :: others) place.stop (utf8Bytes back) =
            bytesOutside others place.stop (utf8Bytes back) :=
          bytesOutside_cons_of_behind (Nat.le_refl _)
        rw [stop] at bytesLater
        calc utf8Bytes (kept ++ rest)
          _ = utf8Bytes kept ++ bytesOutside others place.stop (utf8Bytes back) := by
              rw [utf8Bytes_append, bytesLater]
          _ = bytesOutside (place :: others) (utf8Length front) (utf8Bytes kept) ++
                (bytesOutside (place :: others) place.start (utf8Bytes removed) ++
                  bytesOutside (place :: others) place.stop (utf8Bytes back)) := by
              rw [first, second, third, List.nil_append]
          _ = bytesOutside (place :: others) (utf8Length front)
                (utf8Bytes (kept ++ (removed ++ back))) := by
              rw [utf8Bytes_append, utf8Bytes_append, bytesOutside_append, bytesOutside_append,
                length_utf8Bytes, length_utf8Bytes, ← utf8Length_append, ← utf8Length_append, start,
                stop]

/-- **Removing places that follow each other**, the last one first, leaves the bytes outside of
them. -/
theorem bytes_foldr_remove {source : String} {places : List Span}
    (usable : ∀ place ∈ places, place.IsUsable source.toList)
    (apart : places.Pairwise fun first second => first.stop ≤ second.start) :
    bytes ((places.map remove).foldr apply source) = bytesOutside places 0 (bytes source) := by
  obtain ⟨rest, whole, left⟩ :=
    exists_rest_foldr_remove usable apart (List.nil_append _).symm fun place _ => Nat.zero_le _
  rw [bytes_eq, bytes_eq, whole]
  exact left

end Edit

end ResultBuilder
