import Courier.Aes.Keystream

/-!
Counter mode, byte by byte. Every block of a keystream has sixteen bytes, so the byte of the data at
some position meets one fixed byte of the keystream, in whatever pieces the data comes; and adding
the keystream twice gives the data back.
-/

namespace Courier.Aes

section Lengths

theorem length_xorBytes {xs ys : List UInt8} {count : Nat} (hxs : xs.length = count)
    (hys : ys.length = count) : (xorBytes xs ys).length = count := by
  rw [xorBytes, List.length_zipWith, hxs, hys, Nat.min_self]

theorem length_toBigEndian (count n : Nat) : (toBigEndian count n).length = count := by
  induction count generalizing n with
  | zero => rfl
  | succ count ih => rw [toBigEndian, List.length_append, ih, List.length_singleton]

theorem length_shiftRows (block : List UInt8) : (shiftRows block).length = block.length := by
  unfold shiftRows
  split <;> rfl

theorem length_mixColumns (block : List UInt8) :
    (mixColumns block).length = 4 * (block.length / 4) := by
  fun_induction mixColumns block with
  | case1 a b c d rest ih =>
    simp only [List.length_cons, ih]
    omega
  | case2 block hshort =>
    match block, hshort with
    | [], _ | [_], _ | [_, _], _ | [_, _, _], _ => simp
    | a :: b :: c :: d :: rest, hshort => exact (hshort a b c d rest rfl).elim

theorem length_rounds {keys : List (List UInt8)} {block : List UInt8}
    (hkeys : ∀ key ∈ keys, key.length = 16) (hblock : block.length = 16) :
    (rounds keys block).length = 16 := by
  fun_induction rounds keys block with
  | case1 => exact hblock
  | case2 key block =>
    refine length_xorBytes ?_ (hkeys key List.mem_cons_self)
    rw [length_shiftRows, List.length_map, hblock]
  | case3 key keys block hmore ih =>
    refine ih (fun other hother => hkeys other (List.mem_cons_of_mem _ hother)) ?_
    refine length_xorBytes ?_ (hkeys key List.mem_cons_self)
    rw [length_mixColumns, length_shiftRows, List.length_map, hblock]

theorem length_encryptBlock {keys : List (List UInt8)} {block : List UInt8}
    (hkeys : ∀ key ∈ keys, key.length = 16) (hblock : block.length = 16) :
    (encryptBlock keys block).length = 16 := by
  cases keys with
  | nil => exact hblock
  | cons key rest =>
    refine length_rounds (fun other hother => hkeys other (List.mem_cons_of_mem _ hother)) ?_
    exact length_xorBytes hblock (hkeys key List.mem_cons_self)

theorem length_rotateWord (word : List UInt8) : (rotateWord word).length = word.length := by
  cases word with
  | nil => rfl
  | cons b bs => rw [rotateWord, List.length_append, List.length_singleton, List.length_cons]

theorem length_of_mem_fours {key : List UInt8} : ∀ word ∈ fours key, word.length = 4 := by
  fun_induction fours key with
  | case1 a b c d rest ih =>
    intro word hword
    obtain rfl | hword := List.mem_cons.1 hword
    · rfl
    · exact ih word hword
  | case2 => nofun

theorem length_fours (key : List UInt8) : (fours key).length = key.length / 4 := by
  fun_induction fours key with
  | case1 a b c d rest ih =>
    simp only [List.length_cons, ih]
    omega
  | case2 key hshort =>
    match key, hshort with
    | [], _ | [_], _ | [_, _], _ | [_, _, _], _ => simp
    | a :: b :: c :: d :: rest, hshort => exact (hshort a b c d rest rfl).elim

theorem getD_mem {α : Type} {xs : List α} {index : Nat} (h : index < xs.length) (default : α) :
    xs.getD index default ∈ xs := by
  rw [List.getD_eq_getElem?_getD, List.getElem?_eq_getElem h]
  exact List.getElem_mem h

/-- Every word of an expanded key has four bytes, as the words of the key have. -/
theorem length_of_mem_expandWords {keyWords count index : Nat} {constant : UInt8}
    {words : List (List UInt8)} (hpos : 0 < keyWords) (hmany : keyWords ≤ words.length)
    (hwords : ∀ word ∈ words, word.length = 4) :
    ∀ word ∈ expandWords keyWords count index constant words, word.length = 4 := by
  induction count generalizing index constant words with
  | zero => exact hwords
  | succ count ih =>
    have hearlier : (words.getD (keyWords - 1) []).length = 4 :=
      hwords _ (getD_mem (by omega) [])
    have hprevious : (words.headD []).length = 4 := by
      cases words with
      | nil => exact absurd hpos (Nat.not_lt.2 hmany)
      | cons word rest => exact hwords word List.mem_cons_self
    have hnext {word : List UInt8} (hword : word.length = 4) :
        ∀ other ∈ word :: words, other.length = 4 := by
      intro other hother
      obtain rfl | hother := List.mem_cons.1 hother
      · exact hword
      · exact hwords other hother
    have hmany' (word : List UInt8) : keyWords ≤ (word :: words).length := Nat.le_succ_of_le hmany
    unfold expandWords
    dsimp only
    split
    · have hturned : ((rotateWord (words.headD [])).map substitute).length = 4 := by
        rw [List.length_map, length_rotateWord, hprevious]
      have hconstant : ([constant, 0, 0, 0] : List UInt8).length = 4 := rfl
      exact ih (hmany' _)
        (hnext (length_xorBytes hearlier (length_xorBytes hturned hconstant)))
    · refine ih (hmany' _) (hnext (length_xorBytes hearlier ?_))
      split
      · rw [List.length_map, hprevious]
      · exact hprevious

theorem length_of_mem_roundKeys {words : List (List UInt8)}
    (hwords : ∀ word ∈ words, word.length = 4) : ∀ key ∈ roundKeys words, key.length = 16 := by
  fun_induction roundKeys words with
  | case1 a b c d rest ih =>
    intro key hkey
    obtain rfl | hkey := List.mem_cons.1 hkey
    · simp [hwords]
    · exact ih (fun word hword => hwords word (by simp [hword])) key hkey
  | case2 => nofun

/-- Every round key has sixteen bytes, if the key has a word at all. -/
theorem length_of_mem_schedule {key : List UInt8} (hkey : 4 ≤ key.length) :
    ∀ roundKey ∈ schedule key, roundKey.length = 16 := by
  have hwords : ∀ word ∈ (fours key).reverse, word.length = 4 := fun word hword =>
    length_of_mem_fours word (List.mem_reverse.1 hword)
  have hmany : key.length / 4 ≤ (fours key).reverse.length :=
    Nat.le_of_eq (by rw [List.length_reverse, length_fours])
  refine length_of_mem_roundKeys fun word hword => ?_
  exact length_of_mem_expandWords (by omega) hmany hwords word (List.mem_reverse.1 hword)

end Lengths

/-- Block `index` of the keystream of a key: the encryption of the initial counter plus `index`. -/
def counterBlock (key counter : List UInt8) (index : Nat) : List UInt8 :=
  encryptBlock (schedule key) (toBigEndian 16 ((bigEndian counter + index) % Nat.pow 2 128))

theorem length_counterBlock {key : List UInt8} (hkey : 4 ≤ key.length) (counter : List UInt8)
    (index : Nat) : (counterBlock key counter index).length = 16 :=
  length_encryptBlock (length_of_mem_schedule hkey) (length_toBigEndian 16 _)

/-- The data with the bytes of the keystream added, one to each. -/
def counterMode (key counter data : List UInt8) : List UInt8 :=
  data.mapIdx fun index b => b ^^^ (counterBlock key counter (index / 16)).getD (index % 16) 0

theorem counterMode_counterMode (key counter data : List UInt8) :
    counterMode key counter (counterMode key counter data) = data := by
  refine List.ext_getElem ?_ fun index hindex hdata => ?_
  · simp only [counterMode, List.length_mapIdx]
  · simp only [counterMode, List.getElem_mapIdx, UInt8.xor_assoc, UInt8.xor_self, UInt8.xor_zero]

namespace Keystream

variable {stream : Keystream}

/-- Every block of the stream has sixteen bytes. -/
def Regular (stream : Keystream) : Prop := ∀ index, (stream.block index).length = 16

theorem regular_ofKey {key : List UInt8} (hkey : 4 ≤ key.length) (counter : List UInt8) :
    (ofKey key counter).Regular := length_counterBlock hkey counter

/-- The byte of the stream at a position. -/
def byteAt (stream : Keystream) (position : Nat) : UInt8 :=
  (stream.block (position / 16)).getD (position % 16) 0

theorem length_blocks (h : stream.Regular) (index count : Nat) :
    (stream.blocks index count).length = 16 * count := by
  induction count generalizing index with
  | zero => rfl
  | succ count ih =>
    rw [blocks, List.length_append, h, ih]
    omega

theorem getD_blocks (h : stream.Regular) {index count place : Nat} (hplace : place < 16 * count) :
    (stream.blocks index count).getD place 0 = stream.byteAt (16 * index + place) := by
  induction count generalizing index place with
  | zero => exact absurd hplace (by omega)
  | succ count ih =>
    rw [blocks, List.getD_eq_getElem?_getD]
    by_cases hfirst : place < 16
    · rw [List.getElem?_append_left (by rw [h]; exact hfirst), ← List.getD_eq_getElem?_getD, byteAt]
      rw [show (16 * index + place) / 16 = index by omega,
        show (16 * index + place) % 16 = place by omega]
    · rw [List.getElem?_append_right (by rw [h]; omega), h, ← List.getD_eq_getElem?_getD,
        ih (by omega)]
      congr 1
      omega

theorem slice_eq (h : stream.Regular) (position count : Nat) :
    stream.slice position count =
      (List.range count).map fun place => stream.byteAt (position + place) := by
  have hlength : ((stream.blocks (position / 16) ((position % 16 + count + 15) / 16)).drop
      (position % 16)).length = 16 * ((position % 16 + count + 15) / 16) - position % 16 := by
    rw [List.length_drop, length_blocks h]
  refine List.ext_getElem ?_ fun place hplace hrange => ?_
  · rw [slice, List.length_take, hlength, List.length_map, List.length_range]
    omega
  · rw [List.length_map, List.length_range] at hrange
    have hbyte : (stream.blocks (position / 16) ((position % 16 + count + 15) / 16)).getD
        (position % 16 + place) 0 = stream.byteAt (position + place) := by
      rw [getD_blocks h (by omega), ← Nat.add_assoc, Nat.div_add_mod]
    rw [List.getD_eq_getElem?_getD, List.getElem?_eq_getElem (by rw [length_blocks h]; omega),
      Option.getD_some] at hbyte
    simp only [slice, List.getElem_take, List.getElem_drop, List.getElem_map, List.getElem_range]
    exact hbyte

/-- Each byte of the data meets the byte of the stream at its place. -/
theorem apply_eq (h : stream.Regular) (position : Nat) (data : List UInt8) :
    stream.apply position data =
      data.mapIdx fun index b => b ^^^ stream.byteAt (position + index) := by
  rw [apply, slice_eq h, xorBytes]
  refine List.ext_getElem ?_ fun index hzip hdata => ?_
  · simp
  · simp

theorem length_apply (h : stream.Regular) (position : Nat) (data : List UInt8) :
    (stream.apply position data).length = data.length := by
  rw [apply_eq h, List.length_mapIdx]

/-- Data that comes in two pieces meets the stream as it does in one. -/
theorem apply_append (h : stream.Regular) (position : Nat) (front back : List UInt8) :
    stream.apply position (front ++ back) =
      stream.apply position front ++ stream.apply (position + front.length) back := by
  have hplace (index : Nat) :
      position + (index + front.length) = position + front.length + index := by omega
  simp only [apply_eq h, List.mapIdx_append, hplace]

theorem apply_ofKey {key : List UInt8} (hkey : 4 ≤ key.length) (counter data : List UInt8) :
    (ofKey key counter).apply 0 data = counterMode key counter data := by
  simp only [apply_eq (regular_ofKey hkey counter), Nat.zero_add]
  rfl

end Keystream

end Courier.Aes
