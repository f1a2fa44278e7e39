import CallGuard.Text.Basic

/-!
# Texts and their bytes

The bytes of a text are counted character by character.  A text that stands between two others is
the part of all three between the offsets of its ends, and two texts that start the same text are
ordered by the numbers of their bytes.

Main results:

- Theorem {lit}`utf8ByteSize_ofList`: the bytes of a text, counted by characters.
- Theorem {lit}`exists_eq_append_of_utf8ByteSize_le`: of two starts of a text, the one with fewer
  bytes starts the other.
- Theorem {lit}`slice?_append`: the part of a text behind one text and before another.
-/

namespace CallGuard.Text

/-! ## Counting bytes -/

/-- The bytes of two texts add up. -/
@[simp]
theorem byteLength_append (cs ds : List Char) :
    byteLength (cs ++ ds) = byteLength cs + byteLength ds := by
  induction cs with
  | nil => simp [byteLength]
  | cons c cs ih =>
    rw [List.cons_append, byteLength, ih, byteLength, Nat.add_assoc]

/-- The bytes of a text are those of its characters. -/
theorem utf8ByteSize_ofList (cs : List Char) :
    (String.ofList cs).utf8ByteSize = byteLength cs := by
  induction cs with
  | nil => rfl
  | cons c cs ih =>
    rw [← List.singleton_append, String.ofList_append, String.utf8ByteSize_append, ih,
      byteLength_append]
    simp [byteLength]

/-! ## Starts of a text -/

/-- Of two texts that start the same text, the one without more bytes starts the other. -/
theorem exists_eq_append_of_utf8ByteSize_le {a b c d : String} (h : a ++ b = c ++ d)
    (hle : a.utf8ByteSize ≤ c.utf8ByteSize) : ∃ gap, c = a ++ gap := by
  have hlist : a.toList ++ b.toList = c.toList ++ d.toList := by
    rw [← String.toList_append, h, String.toList_append]
  rcases List.append_eq_append_iff.mp hlist with ⟨more, hc, -⟩ | ⟨more, ha, -⟩
  · refine ⟨String.ofList more, ?_⟩
    rw [← String.toList_inj, String.toList_append, String.toList_ofList, hc]
  · -- The first text starts with the second one, so there is no room for anything behind it.
    have heq : a = c ++ String.ofList more := by
      rw [← String.toList_inj, String.toList_append, String.toList_ofList, ha]
    have hzero : (String.ofList more).utf8ByteSize = 0 := by
      rw [heq, String.utf8ByteSize_append] at hle
      omega
    rw [String.utf8ByteSize_eq_zero_iff] at hzero
    rw [hzero, String.append_empty] at heq
    exact ⟨"", by rw [heq, String.append_empty]⟩

/-! ## Parts of a text -/

/-- The bytes of a text that stands between two others. -/
theorem extract_toByteArray_append (before text after : String) :
    (before ++ text ++ after).toByteArray.extract before.utf8ByteSize
        (before ++ text).utf8ByteSize = text.toByteArray := by
  have hsize : (before ++ text).toByteArray.size =
      before.toByteArray.size + text.toByteArray.size := by
    rw [String.toByteArray_append, ByteArray.size_append]
  rw [String.toByteArray_append]
  calc
    ((before ++ text).toByteArray ++ after.toByteArray).extract before.toByteArray.size
        (before ++ text).toByteArray.size
      = (before ++ text).toByteArray.extract before.toByteArray.size
          (before ++ text).toByteArray.size := ByteArray.extract_append_size_left
    _ = (before.toByteArray ++ text.toByteArray).extract before.toByteArray.size
          (before ++ text).toByteArray.size := by rw [String.toByteArray_append]
    _ = text.toByteArray := ByteArray.extract_append_eq_right rfl hsize

/-- A text that stands between two others is the part between the offsets of its ends. -/
theorem slice?_append (before text after : String) :
    slice? (before ++ text ++ after) before.utf8ByteSize (before ++ text).utf8ByteSize =
      some text := by
  have hfirst : (⟨before.utf8ByteSize⟩ : String.Pos.Raw).IsValid (before ++ text ++ after) :=
    String.Pos.Raw.isValid_iff_exists_append.mpr ⟨before, text ++ after, String.append_assoc, rfl⟩
  have hlast :
      (⟨(before ++ text).utf8ByteSize⟩ : String.Pos.Raw).IsValid (before ++ text ++ after) :=
    String.Pos.Raw.isValid_iff_exists_append.mpr ⟨before ++ text, after, rfl, rfl⟩
  have hle : before.utf8ByteSize ≤ (before ++ text).utf8ByteSize := by
    rw [String.utf8ByteSize_append]
    omega
  rw [slice?, dif_pos ⟨hfirst, hlast, hle⟩, Option.some.injEq, ← String.toByteArray_inj,
    String.toByteArray_extract]
  exact extract_toByteArray_append before text after

end CallGuard.Text
