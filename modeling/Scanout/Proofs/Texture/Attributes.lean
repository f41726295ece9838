import Mathlib.Data.List.Nodup
import Scanout.Texture.Description

/-!
# Attribute lists can be read back

An attribute list does not tell its length. Who reads it goes from key to key until the key that ends
the list, so that key must not stand where another is expected before the end, though it may well
stand where a value is: `read?` tells the two apart. A description is then found by its keys, plane
by plane until one has no descriptor, and it is all there.
-/

namespace Scanout.Texture

namespace Attribute

/-- Reads keys with their values up to the key that ends the list, which nothing may follow. -/
def read? : List Int32 → Option (List (Int32 × Int32))
  | [] => Option.none
  | [key] => if key = none then some [] else Option.none
  | key :: value :: rest =>
    if key = none then Option.none else (read? rest).map ((key, value) :: ·)

def written (pairs : List (Int32 × Int32)) : List Int32 :=
  pairs.flatMap (fun pair => [pair.1, pair.2]) ++ [none]

/-- The planes whose keys are there, up to the first one without a descriptor. -/
def planes? (pairs : List (Int32 × Int32)) : List PlaneKeys → Option (List ImagePlane)
  | [] => some []
  | keys :: rest =>
    match pairs.lookup keys.fd with
    | Option.none => some []
    | some fd => do
      let offset ← pairs.lookup keys.offset
      let pitch ← pairs.lookup keys.pitch
      let others ← planes? pairs rest
      return ⟨⟨fd⟩, offset.toUInt32, pitch.toUInt32⟩ :: others

/-- The keys of a list that describes so many planes. -/
def keys (planes : Nat) : List Int32 :=
  [linuxDrmFourcc, width, height]
    ++ (planeKeys.take planes).flatMap (fun keys => [keys.fd, keys.offset, keys.pitch])
    ++ [yuvColorSpaceHint, sampleRangeHint]

section Pairs

variable {pairs : List (Int32 × Int32)}

@[simp] theorem written_cons (pair : Int32 × Int32) (pairs : List (Int32 × Int32)) :
    written (pair :: pairs) = pair.1 :: pair.2 :: written pairs := rfl

theorem written_length (pairs : List (Int32 × Int32)) :
    (written pairs).length = 2 * pairs.length + 1 := by
  induction pairs with
  | nil => rfl
  | cons pair rest ih =>
    rw [written_cons, List.length_cons, List.length_cons, ih, List.length_cons]
    omega

theorem read?_written (unended : none ∉ pairs.map Prod.fst) : read? (written pairs) = some pairs := by
  induction pairs with
  | nil => rfl
  | cons pair rest ih =>
    rw [List.map_cons, List.mem_cons, not_or] at unended
    obtain ⟨here, later⟩ := unended
    rw [written_cons, read?, if_neg (Ne.symm here), ih later]
    rfl

/-- The key that ends the list is at the end, and where no other key is expected. -/
theorem written_ended_iff (unended : none ∉ pairs.map Prod.fst) (i : Nat) :
    (written pairs)[2 * i]? = some none ↔ 2 * i + 1 = (written pairs).length := by
  induction pairs generalizing i with
  | nil =>
    cases i with
    | zero => exact iff_of_true rfl rfl
    | succ i => exact iff_of_false (by simp [written]) (by simp [written])
  | cons pair rest ih =>
    rw [List.map_cons, List.mem_cons, not_or] at unended
    obtain ⟨here, later⟩ := unended
    cases i with
    | zero =>
      refine iff_of_false ?_ ?_
      · intro ended
        exact here (Option.some.inj ended).symm
      · rw [written_cons, List.length_cons, List.length_cons]
        omega
    | succ i =>
      have next : (written (pair :: rest))[2 * (i + 1)]? = (written rest)[2 * i]? := rfl
      rw [next, ih later, written_cons, List.length_cons, List.length_cons]
      omega

theorem lookup_of_mem {key value : Int32} (distinct : (pairs.map Prod.fst).Nodup)
    (member : (key, value) ∈ pairs) : pairs.lookup key = some value := by
  obtain ⟨before, after, rfl⟩ := List.append_of_mem member
  refine List.lookup_eq_some_iff.mpr ⟨before, after, rfl, fun pair earlier => ?_⟩
  rw [List.map_append, List.map_cons, List.nodup_append] at distinct
  have apart := distinct.2.2 pair.1 (List.mem_map_of_mem earlier) key List.mem_cons_self
  exact bne_iff_ne.mpr (Ne.symm apart)

theorem lookup_of_not_mem {key : Int32} (absent : key ∉ pairs.map Prod.fst) :
    pairs.lookup key = Option.none := by
  refine List.lookup_eq_none_iff.mpr fun pair member => bne_iff_ne.mpr ?_
  rintro rfl
  exact absent (List.mem_map_of_mem member)

/-- What is looked for and what must not be found: the keys of a plane that is there have its values,
and a plane that is not there has no descriptor. -/
theorem planes?_eq {planes : List ImagePlane} {rows : List PlaneKeys}
    (few : planes.length ≤ rows.length)
    (found : ∀ p keys, (p, keys) ∈ planes.zip rows → pairs.lookup keys.fd = some p.fd.number ∧
      pairs.lookup keys.offset = some p.offset.toInt32 ∧
      pairs.lookup keys.pitch = some p.pitch.toInt32)
    (ended : ∀ keys ∈ rows.drop planes.length, pairs.lookup keys.fd = Option.none) :
    planes? pairs rows = some planes := by
  induction planes generalizing rows with
  | nil =>
    cases rows with
    | nil => rfl
    | cons keys rest => rw [planes?, ended keys List.mem_cons_self]
  | cons p later ih =>
    cases rows with
    | nil => exact absurd few (Nat.not_succ_le_zero _)
    | cons keys rest =>
      obtain ⟨fd, offset, pitch⟩ := found p keys List.mem_cons_self
      have others := ih (Nat.le_of_succ_le_succ few)
        (fun q row member => found q row (List.mem_cons_of_mem _ member)) ended
      simp only [planes?, fd, offset, pitch, others]
      rfl

end Pairs

/-- No key of a description ends the list, and none is that of a plane behind its last. -/
theorem keys_apart : ∀ planes ≤ maxPlanes, (keys planes).length = 5 + 3 * planes ∧
    (keys planes).Nodup ∧ none ∉ keys planes ∧
    ∀ row ∈ planeKeys.drop planes, row.fd ∉ keys planes := by
  decide

end Attribute

namespace Description

def planePairs (p : ImagePlane) (keys : Attribute.PlaneKeys) : List (Int32 × Int32) :=
  [(keys.fd, p.fd.number), (keys.offset, p.offset.toInt32), (keys.pitch, p.pitch.toInt32)]

def pairs (d : Description) : List (Int32 × Int32) :=
  [(Attribute.linuxDrmFourcc, d.format.code.toInt32), (Attribute.width, d.size.width.toInt32),
    (Attribute.height, d.size.height.toInt32)]
    ++ (List.zipWith planePairs d.planes Attribute.planeKeys).flatten
    ++ [(Attribute.yuvColorSpaceHint, Attribute.ituRec601),
      (Attribute.sampleRangeHint, Attribute.yuvNarrowRange)]

def ofPairs? (pairs : List (Int32 × Int32)) : Option Description := do
  let format ← pairs.lookup Attribute.linuxDrmFourcc
  let width ← pairs.lookup Attribute.width
  let height ← pairs.lookup Attribute.height
  let planes ← Attribute.planes? pairs Attribute.planeKeys
  return ⟨⟨format.toUInt32⟩, ⟨width.toUInt32, height.toUInt32⟩, planes⟩

/-- What reading a list gives for the description it is of: keys with values up to its end, no key
twice, and under these keys what the description says and the two hints. -/
structure Encodes (d : Description) (attributes : List Int32) : Prop where
  length_eq : attributes.length = 11 + 6 * d.planes.length
  ended_iff : ∀ i, attributes[2 * i]? = some Attribute.none ↔ 2 * i + 1 = attributes.length
  reads : ∃ pairs, Attribute.read? attributes = some pairs ∧ attributes = Attribute.written pairs ∧
    (pairs.map Prod.fst).Nodup ∧ ofPairs? pairs = some d ∧
    pairs.lookup Attribute.yuvColorSpaceHint = some Attribute.ituRec601 ∧
    pairs.lookup Attribute.sampleRangeHint = some Attribute.yuvNarrowRange

theorem toAttributes_eq (d : Description) : d.toAttributes = Attribute.written d.pairs := by
  have planes (ps : List ImagePlane) (rows : List Attribute.PlaneKeys) :
      (List.zipWith planePairs ps rows).flatten.flatMap (fun pair => [pair.1, pair.2])
        = (List.zipWith planeAttributes ps rows).flatten := by
    induction ps generalizing rows with
    | nil => rfl
    | cons p rest ih =>
      cases rows with
      | nil => rfl
      | cons keys rows => exact congrArg (planeAttributes p keys ++ ·) (ih rows)
  rw [Attribute.written, pairs, List.flatMap_append, List.flatMap_append, planes,
    List.append_assoc _ _ [Attribute.none]]
  rfl

theorem keys_pairs (d : Description) : d.pairs.map Prod.fst = Attribute.keys d.planes.length := by
  have planes (ps : List ImagePlane) (rows : List Attribute.PlaneKeys) :
      (List.zipWith planePairs ps rows).flatten.map Prod.fst
        = (rows.take ps.length).flatMap (fun keys => [keys.fd, keys.offset, keys.pitch]) := by
    induction ps generalizing rows with
    | nil => rfl
    | cons p rest ih =>
      cases rows with
      | nil => rfl
      | cons keys rows => exact congrArg ([keys.fd, keys.offset, keys.pitch] ++ ·) (ih rows)
  rw [pairs, List.map_append, List.map_append, planes]
  rfl

theorem mem_pairs_plane {d : Description} {p : ImagePlane} {keys : Attribute.PlaneKeys}
    (row : (p, keys) ∈ d.planes.zip Attribute.planeKeys) {pair : Int32 × Int32}
    (of_plane : pair ∈ planePairs p keys) : pair ∈ d.pairs := by
  have planes : pair ∈ (List.zipWith planePairs d.planes Attribute.planeKeys).flatten := by
    rw [← List.map_uncurry_zip_eq_zipWith, List.mem_flatten]
    exact ⟨planePairs p keys, List.mem_map.mpr ⟨(p, keys), row, rfl⟩, of_plane⟩
  exact List.mem_append_left _ (List.mem_append_right _ planes)

section Few

variable {d : Description} (few : d.planes.length ≤ maxPlanes)

include few

theorem keys_nodup : (d.pairs.map Prod.fst).Nodup := by
  rw [keys_pairs]
  exact (Attribute.keys_apart _ few).2.1

theorem unended : Attribute.none ∉ d.pairs.map Prod.fst := by
  rw [keys_pairs]
  exact (Attribute.keys_apart _ few).2.2.1

theorem planes?_pairs : Attribute.planes? d.pairs Attribute.planeKeys = some d.planes := by
  have distinct := keys_nodup few
  refine Attribute.planes?_eq few ?_ ?_
  · intro p keys row
    have value (pair : Int32 × Int32) (member : pair ∈ planePairs p keys) :
        d.pairs.lookup pair.1 = some pair.2 :=
      Attribute.lookup_of_mem distinct (mem_pairs_plane row member)
    exact ⟨value (keys.fd, p.fd.number) (by simp [planePairs]),
      value (keys.offset, p.offset.toInt32) (by simp [planePairs]),
      value (keys.pitch, p.pitch.toInt32) (by simp [planePairs])⟩
  · intro keys behind
    apply Attribute.lookup_of_not_mem
    rw [keys_pairs]
    exact (Attribute.keys_apart _ few).2.2.2 keys behind

theorem ofPairs?_pairs : ofPairs? d.pairs = some d := by
  have format : d.pairs.lookup Attribute.linuxDrmFourcc = some d.format.code.toInt32 := rfl
  have width : d.pairs.lookup Attribute.width = some d.size.width.toInt32 := rfl
  have height : d.pairs.lookup Attribute.height = some d.size.height.toInt32 := rfl
  simp only [ofPairs?, format, width, height, planes?_pairs few]
  rfl

theorem toAttributes_encodes : d.Encodes d.toAttributes where
  length_eq := by
    have entries : d.pairs.length = 5 + 3 * d.planes.length := by
      rw [← List.length_map Prod.fst, keys_pairs]
      exact (Attribute.keys_apart _ few).1
    rw [toAttributes_eq, Attribute.written_length, entries]
    omega
  ended_iff := by
    rw [toAttributes_eq]
    exact Attribute.written_ended_iff (unended few)
  reads := by
    have hint {key value : Int32} (member : (key, value) ∈ d.pairs) :=
      Attribute.lookup_of_mem (keys_nodup few) member
    rw [toAttributes_eq]
    exact ⟨d.pairs, Attribute.read?_written (unended few), rfl, keys_nodup few, ofPairs?_pairs few,
      hint (by simp [pairs]), hint (by simp [pairs])⟩

end Few

theorem Encodes.unique {d other : Description} {attributes : List Int32}
    (this : d.Encodes attributes) (that : other.Encodes attributes) : d = other := by
  obtain ⟨pairs, read, -, -, found, -⟩ := this.reads
  obtain ⟨pairs', read', -, -, found', -⟩ := that.reads
  rw [read] at read'
  rw [← Option.some.inj read', found] at found'
  exact Option.some.inj found'

/-- The list of a description with as many planes as there are keys for tells that description from
every other one. -/
theorem toAttributes_lossless {d : Description} (few : d.planes.length ≤ maxPlanes) :
    d.Encodes d.toAttributes ∧
    ∀ other : Description, other.planes.length ≤ maxPlanes →
      (other.toAttributes = d.toAttributes ↔ other = d) := by
  refine ⟨toAttributes_encodes few, fun other others => ⟨fun same => ?_, fun same => same ▸ rfl⟩⟩
  have encoded := toAttributes_encodes others
  rw [same] at encoded
  exact encoded.unique (toAttributes_encodes few)

/-- Nine values are that of the key that ends the list, and others have the sign bit set. -/
theorem toAttributes_lossless_ending_values :
    let d : Description := ⟨⟨0x3038⟩, ⟨0x3038, 0xFFFFFFFF⟩,
      [⟨⟨3⟩, 0x3038, 0x3038⟩, ⟨⟨3⟩, 0x80000000, 0x3038⟩, ⟨⟨0x3038⟩, 0x3038, 0x3038⟩,
        ⟨⟨5⟩, 0x3272, 0x3038⟩]⟩
    d.toAttributes.count Attribute.none = 10 ∧ d.Encodes d.toAttributes := by
  intro d
  exact ⟨by decide, (toAttributes_lossless (by decide : d.planes.length ≤ maxPlanes)).1⟩

end Description

end Scanout.Texture
