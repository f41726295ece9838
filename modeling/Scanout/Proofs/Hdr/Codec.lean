import Mathlib.Data.Nat.Bitwise
import Scanout.Hdr.Metadata

/-!
# Metadata as a blob

Metadata that is written and read back is the same metadata, whatever follows it in the blob. In the
other direction nothing is refused: every blob can be read, and writing what was read gives its first
thirty bytes, with zeros for those that it does not have. All fifteen fields are words, so both are
proved of lists of words. A word that the end of a blob cuts in half keeps its low byte.
-/

namespace Scanout

namespace HdrMetadata

def littleEndian (w : UInt16) : List UInt8 :=
  [UInt8.ofNat (w.toNat % 256), UInt8.ofNat (w.toNat / 256)]

def byteAt (blob : List UInt8) (offset : Nat) : UInt8 := blob[offset]?.getD 0

/-- The bytes that metadata is read from: the first ones, and zeros behind those that there are. -/
def extended (blob : List UInt8) : List UInt8 := (blob.take byteCount).rightpad byteCount 0

section Words

variable (blob suffix : List UInt8) (w : UInt16) (i : Nat)

theorem toNat_wordAt :
    (wordAt blob i).toNat = (byteAt blob (2 * i)).toNat + 256 * (byteAt blob (2 * i + 1)).toNat := by
  have low := (byteAt blob (2 * i)).toNat_lt
  have high := (byteAt blob (2 * i + 1)).toNat_lt
  have shift : UInt16.toNat 8 % 16 = 8 := by decide
  change ((byteAt blob (2 * i)).toUInt16 ||| (byteAt blob (2 * i + 1)).toUInt16 <<< 8).toNat = _
  rw [UInt16.toNat_or, UInt16.toNat_shiftLeft, UInt8.toNat_toUInt16, UInt8.toNat_toUInt16, shift,
    Nat.mod_eq_of_lt (by rw [Nat.shiftLeft_eq]; omega), Nat.or_comm,
    ← Nat.shiftLeft_add_eq_or_of_lt low, Nat.shiftLeft_eq]
  omega

theorem wordBytes_eq : wordBytes w = littleEndian w := by
  have word := w.toNat_lt
  have shift : UInt16.toNat 8 % 16 = 8 := by decide
  have low : w.toUInt8 = UInt8.ofNat (w.toNat % 256) := by
    apply UInt8.toNat_inj.mp
    rw [UInt16.toNat_toUInt8, UInt8.toNat_ofNat']
    omega
  have high : (w >>> 8).toUInt8 = UInt8.ofNat (w.toNat / 256) := by
    apply UInt8.toNat_inj.mp
    rw [UInt16.toNat_toUInt8, UInt16.toNat_shiftRight, UInt8.toNat_ofNat', shift,
      Nat.shiftRight_eq_div_pow]
  rw [wordBytes, low, high, littleEndian]

theorem wordBytes_wordAt :
    wordBytes (wordAt blob i) = [byteAt blob (2 * i), byteAt blob (2 * i + 1)] := by
  have low := (byteAt blob (2 * i)).toNat_lt
  have high := (byteAt blob (2 * i + 1)).toNat_lt
  have first : (wordAt blob i).toNat % 256 = (byteAt blob (2 * i)).toNat := by
    rw [toNat_wordAt]
    omega
  have second : (wordAt blob i).toNat / 256 = (byteAt blob (2 * i + 1)).toNat := by
    rw [toNat_wordAt]
    omega
  rw [wordBytes_eq, littleEndian, first, second, UInt8.ofNat_toNat, UInt8.ofNat_toNat]

theorem wordAt_wordBytes_zero : wordAt (wordBytes w ++ suffix) 0 = w := by
  have word := w.toNat_lt
  apply UInt16.toNat_inj.mp
  have bytes : (wordAt (wordBytes w ++ suffix) 0).toNat
      = (UInt8.ofNat (w.toNat % 256)).toNat + 256 * (UInt8.ofNat (w.toNat / 256)).toNat := by
    rw [toNat_wordAt, wordBytes_eq]
    rfl
  rw [bytes, UInt8.toNat_ofNat', UInt8.toNat_ofNat']
  omega

theorem wordAt_wordBytes_succ : wordAt (wordBytes w ++ suffix) (i + 1) = wordAt suffix i := rfl

theorem map_wordAt_flatMap (ws : List UInt16) :
    (List.range ws.length).map (wordAt (ws.flatMap wordBytes ++ suffix)) = ws := by
  induction ws with
  | nil => rfl
  | cons w rest ih =>
    have later : (wordAt (wordBytes w ++ (rest.flatMap wordBytes ++ suffix))) ∘ Nat.succ
        = wordAt (rest.flatMap wordBytes ++ suffix) :=
      funext fun i => wordAt_wordBytes_succ _ w i
    rw [List.flatMap_cons, List.append_assoc, List.length_cons, List.range_succ_eq_map, List.map_cons,
      List.map_map, later, ih, wordAt_wordBytes_zero]

end Words

section Fields

variable (m : HdrMetadata) (blob : List UInt8)

theorem words_ofBlob : (ofBlob blob).words = (List.range 15).map (wordAt blob) := rfl

theorem ext_words {m other : HdrMetadata} (same : m.words = other.words) : m = other := by
  obtain ⟨_, _, ⟨_, _, _⟩, ⟨_, _, _⟩, _, _, _, _, _, _, _⟩ := m
  obtain ⟨_, _, ⟨_, _, _⟩, ⟨_, _, _⟩, _, _, _, _, _, _, _⟩ := other
  simp only [words, List.cons.injEq] at same
  simp [same]

theorem ofBlob_toBytes_append (suffix : List UInt8) : ofBlob (m.toBytes ++ suffix) = m := by
  apply ext_words
  rw [words_ofBlob]
  exact map_wordAt_flatMap suffix m.words

theorem flatMap_range_pairs {α : Type} (f : Nat → α) (n : Nat) :
    (List.range n).flatMap (fun i => [f (2 * i), f (2 * i + 1)]) = (List.range (2 * n)).map f := by
  induction n with
  | zero => rfl
  | succ n ih =>
    rw [Nat.mul_succ, List.range_succ, List.range_succ, List.range_succ, List.flatMap_append, ih]
    simp

theorem extended_eq : extended blob = (List.range byteCount).map (byteAt blob) := by
  apply List.ext_getElem
  · rw [extended, List.length_rightpad, List.length_take, List.length_map, List.length_range]
    omega
  · intro i bound inRange
    have inside : i < byteCount := by simpa using inRange
    rw [List.getElem_map, List.getElem_range]
    by_cases there : i < blob.length
    · have taken : i < (blob.take byteCount).length := by
        rw [List.length_take]
        omega
      simp [extended, List.rightpad, List.getElem_append_left taken, byteAt, there]
    · have padded : (blob.take byteCount).length ≤ i := by
        rw [List.length_take]
        omega
      simp [extended, List.rightpad, List.getElem_append_right padded, byteAt, there]

theorem toBytes_ofBlob : (ofBlob blob).toBytes = extended blob := by
  rw [toBytes, words_ofBlob, List.flatMap_map, extended_eq]
  simp only [wordBytes_wordAt]
  exact flatMap_range_pairs (byteAt blob) 15

theorem ofBlob_extended : ofBlob (extended blob) = ofBlob blob := by
  rw [← toBytes_ofBlob, ← List.append_nil (ofBlob blob).toBytes, ofBlob_toBytes_append]

theorem ofBlob_eq_iff {blob other : List UInt8} :
    ofBlob blob = ofBlob other ↔ extended blob = extended other := by
  constructor
  · intro same
    rw [← toBytes_ofBlob, ← toBytes_ofBlob, same]
  · intro same
    rw [← ofBlob_extended blob, same, ofBlob_extended]

/-- The transfer is not the traditional one if one of the bytes that there are of it says so. -/
theorem isHdr_ofBlob : (ofBlob blob).isHdr = true ↔ ∃ byte ∈ blob.take 2, byte ≠ 0 := by
  have word : (ofBlob blob).eotf.toNat = (byteAt blob 0).toNat + 256 * (byteAt blob 1).toNat :=
    toNat_wordAt blob 0
  have dark : (ofBlob blob).eotf = 0 ↔ byteAt blob 0 = 0 ∧ byteAt blob 1 = 0 := by
    rw [← UInt16.toNat_inj, ← UInt8.toNat_inj, ← UInt8.toNat_inj, word]
    simp only [UInt16.toNat_zero, UInt8.toNat_zero]
    omega
  rw [isHdr, bne_iff_ne, ne_eq, show Eotf.traditionalGammaSdr.code = 0 from rfl, dark]
  match blob with
  | [] => simp [byteAt]
  | [_] => simp [byteAt]
  | _ :: _ :: _ => simp [byteAt]; tauto

end Fields

/-- Metadata and blobs, in both directions. -/
theorem blob_codec :
    (∀ m : HdrMetadata, m.toBytes.length = 30 ∧ m.toBytes = m.words.flatMap littleEndian) ∧
    (∀ (m : HdrMetadata) (suffix : List UInt8), ofBlob (m.toBytes ++ suffix) = m) ∧
    (∀ blob : List UInt8, (ofBlob blob).words.map UInt16.toNat = (List.range 15).map fun i =>
      (byteAt blob (2 * i)).toNat + 256 * (byteAt blob (2 * i + 1)).toNat) ∧
    (∀ blob : List UInt8, (ofBlob blob).toBytes = (blob.take 30).rightpad 30 0) ∧
    (∀ blob other : List UInt8, ofBlob blob = ofBlob other ↔
      (blob.take 30).rightpad 30 0 = (other.take 30).rightpad 30 0) ∧
    ∀ blob : List UInt8,
      (Panel.ofBlob blob).supportsHdr = true ↔ ∃ byte ∈ blob.take 2, byte ≠ 0 := by
  refine ⟨fun m => ⟨rfl, ?_⟩, ofBlob_toBytes_append, fun blob => ?_, toBytes_ofBlob,
    fun _ _ => ofBlob_eq_iff, isHdr_ofBlob⟩
  · rw [toBytes, funext wordBytes_eq]
  · rw [words_ofBlob, List.map_map]
    exact List.map_congr_left fun i _ => toNat_wordAt blob i

/-- A blob that ends within its second word. -/
example : ofBlob [2, 0, 7] = ofBlob [2, 0, 7, 0] ∧ (ofBlob [2, 0, 7]).metadataType = 7 := by decide

end HdrMetadata

end Scanout
