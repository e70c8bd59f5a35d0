import Lanewise.Proofs.Image.Bytes

/-!
# Stored frames

Data can be written as one frame whose blocks hold it as it is. Decompressing such a frame gives the
data back, as long as the limit leaves room for the data and for the smallest window.

## Main results

* `Zstd.readBlocks_storeBlocks`: reading stored blocks gives the data back.
* `Zstd.decompress_store`: so does decompressing a stored frame.
-/

namespace Lanewise.Zstd

open Bytes

/-! ### Blocks -/

/-- What stands in front of the blocks stays there. -/
theorem toList_storeBlocks (data : ByteArray) (fuel start : Nat) (out : ByteArray) :
    ∃ tail, (storeBlocks data fuel start out).toList = out.toList ++ tail := by
  induction fuel generalizing start out with
  | zero => exact ⟨[], by rw [storeBlocks, List.append_nil]⟩
  | succ fuel ih =>
    rw [storeBlocks]
    split
    · exact ⟨_, by rw [toList_append, toList_pushNumber, List.append_assoc]⟩
    · obtain ⟨tail, htail⟩ := ih (start + min maxBlockSize (data.size - start)) _
      exact ⟨_, by rw [htail, toList_append, toList_pushNumber, List.append_assoc,
        List.append_assoc]⟩

/-- A number that was written is read back. -/
theorem numberAt_of_toList {whole : ByteArray} {front tail : List UInt8} {n v : Nat}
    (h : whole.toList = front ++ (digits n v ++ tail)) (hv : v < Nat.pow 256 n) :
    numberAt whole whole.size front.length n = v := by
  have hsize : front.length + n ≤ whole.size := by
    rw [← length_toList, h]
    simp
  rw [numberAt_eq hsize, h, List.drop_left, List.take_left' (length_digits n v), number_digits hv]

/-- Bytes that were written are read back. -/
theorem slice_of_toList {whole : ByteArray} {front tail : List UInt8} {part : ByteArray}
    {i j : Nat} (h : whole.toList = front ++ (part.toList ++ tail)) (hi : i = front.length)
    (hj : j = i + part.size) : slice whole i j = part := by
  apply ext_toList
  rw [slice, toList_extract, h, hi, List.drop_left, List.take_left']
  rw [length_toList]
  omega

section

variable {data whole : ByteArray} {h : FrameHeader} {limit : Nat}

/-- The header of a stored block: its size, and whether it is the last one. -/
def storedHeader (size : Nat) (last : Bool) : Nat :=
  8 * size + if last then 1 else 0

/-- Reading one stored block appends its bytes. It goes on with the next block unless it was the
last one. -/
theorem readBlocks_stored {fuel size : Nat} {last : Bool} {front tail : List UInt8}
    {ctx : Context} {out part : ByteArray} (hpart : part.size = size) (hblock : size ≤ maxBlockSize)
    (hwindow : size ≤ h.window) (hlimit : out.size + size ≤ limit)
    (hsize : h.size.any (· < out.size + size) = false)
    (hwhole : whole.toList = front ++
      (digits 3 (storedHeader size last) ++ (part.toList ++ tail))) :
    readBlocks whole h limit 0 (fuel + 1) front.length ctx out =
      if last then .ok (out ++ part, front.length + 3 + size)
      else readBlocks whole h limit 0 fuel (front.length + 3 + size) ctx (out ++ part) := by
  have hmax : maxBlockSize = 131072 := rfl
  have hlength : whole.size = front.length + 3 + size + tail.length := by
    rw [← length_toList, hwhole]
    simp [hpart]
    omega
  have hbound : storedHeader size last < Nat.pow 256 3 := by
    rw [show Nat.pow 256 3 = 16777216 from rfl, storedHeader]
    split <;> omega
  have hb : numberAt whole whole.size front.length 3 = storedHeader size last :=
    numberAt_of_toList hwhole hbound
  have hdiv : storedHeader size last / 8 = size := by
    rw [storedHeader]
    split <;> omega
  have hkind : storedHeader size last / 2 % 4 = 0 := by
    rw [storedHeader]
    split <;> omega
  have hlast : (storedHeader size last % 2 = 1) = (last = true) := by
    rw [storedHeader, eq_iff_iff]
    split
    · next htrue => exact iff_of_true (by omega) htrue
    · next hfalse => exact iff_of_false (by omega) hfalse
  have hslice : slice whole (front.length + 3) (front.length + 3 + size) = part := by
    have hbytes : whole.toList =
        (front ++ digits 3 (storedHeader size last)) ++ (part.toList ++ tail) := by
      rw [hwhole, List.append_assoc]
    exact slice_of_toList hbytes (by simp) (by rw [hpart])
  have hroom : ¬(maxBlockSize < size ∨ h.window < size) := by omega
  have hfull : ¬(limit < (out ++ part).size - 0 ∨ h.size.any (· < (out ++ part).size - 0)) := by
    rw [Nat.sub_zero, ByteArray.size_append, hpart, hsize]
    simp
    omega
  have hcheck₁ : check (decide (front.length + 3 ≤ whole.size)) = .ok () := by
    rw [decide_eq_true (by omega)]
    rfl
  have hcheck₂ : check (decide (front.length + 3 + size ≤ whole.size)) = .ok () := by
    rw [decide_eq_true (by omega)]
    rfl
  rw [readBlocks]
  simp only [hcheck₁, hb, hdiv, hkind, hlast, bind, Except.bind, pure, Except.pure, if_neg hroom,
    hcheck₂, hslice, if_neg hfull]

/-- Reading the stored blocks behind a front gives the rest of the data. -/
theorem readBlocks_storeBlocks (hwindow : data.size ≤ h.window) (hsize : h.size = some data.size)
    (hlimit : data.size ≤ limit) {fuel start : Nat} {front : ByteArray} (hstart : start < data.size)
    (hfuel : data.size - start ≤ maxBlockSize * fuel)
    (hwhole : whole = storeBlocks data fuel start front) {fuel' : Nat}
    (hfuel' : whole.size < front.size + fuel') (ctx : Context) :
    readBlocks whole h limit 0 fuel' front.size ctx (data.extract 0 start) =
      .ok (data, whole.size) := by
  induction fuel generalizing start front fuel' with
  | zero => omega
  | succ fuel ih =>
    obtain ⟨n, rfl⟩ : ∃ n, fuel' = n + 1 := by
      obtain ⟨tail, htail⟩ := toList_storeBlocks data (fuel + 1) start front
      have hge := congrArg List.length htail
      rw [← hwhole, List.length_append, length_toList, length_toList] at hge
      exact ⟨fuel' - 1, by omega⟩
    rw [Nat.mul_succ] at hfuel
    rw [storeBlocks] at hwhole
    generalize hn : min maxBlockSize (data.size - start) = size at hwhole
    have hpart : (slice data start (start + size)).size = size := by
      rw [slice, ByteArray.size_extract]
      omega
    have hout : (data.extract 0 start).size = start := by
      rw [ByteArray.size_extract]
      omega
    have hjoin : data.extract 0 start ++ slice data start (start + size) =
        data.extract 0 (start + size) := by
      rw [slice, ByteArray.extract_append_extract, Nat.min_eq_left (by omega),
        Nat.max_eq_right (by omega)]
    have hblock : size ≤ maxBlockSize := by omega
    have hroom : size ≤ h.window := by omega
    have hfits : h.size.any (· < (data.extract 0 start).size + size) = false := by
      rw [hsize, hout]
      simp
      omega
    generalize hpart' : slice data start (start + size) = part at hwhole hpart hjoin
    by_cases hlast : start + size = data.size
    · rw [if_pos hlast, if_pos hlast] at hwhole
      have hbytes : whole.toList =
          front.toList ++ (digits 3 (storedHeader size true) ++ (part.toList ++ [])) := by
        rw [hwhole, toList_append, toList_pushNumber, List.append_nil, List.append_assoc]
        rfl
      have hread : readBlocks whole h limit 0 (n + 1) front.toList.length ctx
          (data.extract 0 start) = _ :=
        readBlocks_stored hpart hblock hroom (by omega) hfits hbytes
      rw [length_toList] at hread
      rw [hread, if_pos rfl, hjoin, hlast, ByteArray.extract_zero_size]
      have hend : whole.size = front.size + 3 + size := by
        rw [← length_toList, hbytes]
        simp only [List.append_nil, List.length_append, length_toList, length_digits, hpart]
        omega
      rw [hend]
    · rw [if_neg hlast, if_neg hlast] at hwhole
      obtain ⟨tail, htail⟩ := toList_storeBlocks data fuel (start + size)
        (pushNumber front (8 * size + 0) 3 ++ part)
      have hbytes : whole.toList =
          front.toList ++ (digits 3 (storedHeader size false) ++ (part.toList ++ tail)) := by
        rw [hwhole, htail, toList_append, toList_pushNumber, List.append_assoc, List.append_assoc]
        rfl
      have hread : readBlocks whole h limit 0 (n + 1) front.toList.length ctx
          (data.extract 0 start) = _ :=
        readBlocks_stored hpart hblock hroom (by omega) hfits hbytes
      have hfront : (pushNumber front (8 * size + 0) 3 ++ part).size = front.size + 3 + size := by
        rw [← length_toList, toList_append, toList_pushNumber]
        simp only [List.length_append, length_toList, length_digits, hpart]
      rw [length_toList, if_neg Bool.false_ne_true, hjoin, ← hfront] at hread
      rw [hread]
      exact ih (by omega) (by omega) hwhole (by omega)

end

/-! ### Frames -/

/-- The bytes in front of the stored blocks: the mark of a frame, and a header that states the
size. -/
def storedFront (size : Nat) : List UInt8 :=
  digits 4 0xFD2FB528 ++ (digits 1 0xA0 ++ digits 4 size)

/-- The header of a stored frame. -/
def storedFrame (size : Nat) : FrameHeader :=
  { window := max size minWindow, size := some size, dictionary := 0, checksum := false }

theorem read_stored {whole : ByteArray} {size limit : Nat} {tail : List UInt8}
    (hwhole : whole.toList = storedFront size ++ tail) (hsize : size < Nat.pow 256 4)
    (hlimit : size ≤ limit) (hmin : minWindow ≤ limit) :
    FrameHeader.read whole 4 limit = .ok (storedFrame size, 9) := by
  have hlength : 9 ≤ whole.size := by
    rw [← length_toList, hwhole]
    simp [storedFront]
    omega
  have hb : numberAt whole whole.size 4 1 = 0xA0 := by
    have hbytes : whole.toList =
        digits 4 0xFD2FB528 ++ (digits 1 0xA0 ++ (digits 4 size ++ tail)) := by
      rw [hwhole, storedFront, List.append_assoc, List.append_assoc]
    exact numberAt_of_toList hbytes (by decide)
  have hn : numberAt whole whole.size 5 4 = size := by
    have hbytes :
        whole.toList = (digits 4 0xFD2FB528 ++ digits 1 0xA0) ++ (digits 4 size ++ tail) := by
      rw [hwhole, storedFront, List.append_assoc, List.append_assoc, List.append_assoc]
    exact numberAt_of_toList hbytes hsize
  have hb' : byteAt whole whole.size 4 = 0xA0 := hb
  have hcheck (n : Nat) (hn : n ≤ 9) : check (decide (n ≤ whole.size)) = .ok () := by
    rw [decide_eq_true (by omega)]
    rfl
  have hroom : ¬limit < max size minWindow := by omega
  have htrue : check true = .ok () := rfl
  have h₄ : check (decide (4 < whole.size)) = .ok () := hcheck 5 (by omega)
  have hnone : numberAt whole whole.size 5 0 = 0 := rfl
  simp [FrameHeader.read, bind, Except.bind, pure, Except.pure, htrue, h₄, hcheck 5, hcheck 9, hb',
    hn, hnone, hroom, storedFrame]

theorem readFrames_end {data : ByteArray} {start : Nat} (h : data.size ≤ start) (limit fuel : Nat)
    (out : ByteArray) : readFrames data limit fuel start out = .ok out := by
  cases fuel with
  | zero => rfl
  | succ fuel => rw [readFrames, if_pos h]

/-- Decompressing a stored frame gives the data back. -/
theorem decompress_store {data : ByteArray} {limit : Nat} (hsize : data.size < Nat.pow 256 4)
    (hlimit : data.size ≤ limit) (hmin : minWindow ≤ limit) :
    decompress (store data) limit = .ok data := by
  have hone : minWindow = 1024 := rfl
  have hmax : max limit 1 = limit := by omega
  rw [decompress, hmax]
  by_cases hempty : data.size = 0
  · have hstore : store data = .empty := by rw [store, if_pos hempty]
    rw [hstore, ByteArray.size_eq_zero_iff.1 hempty]
    rfl
  · generalize hfront :
      pushNumber (pushNumber (pushNumber .empty 0xFD2FB528 4) 0xA0 1) data.size 4 = front
    generalize hwhole : storeBlocks data (data.size / maxBlockSize + 1) 0 front = whole
    have hstore : store data = whole := by rw [store, if_neg hempty, hfront, hwhole]
    have hbytes : front.toList = storedFront data.size := by
      rw [← hfront]
      simp [storedFront, ByteArray.toList_empty]
    have hnine : front.size = 9 := by
      rw [← length_toList, hbytes]
      simp [storedFront]
    obtain ⟨tail, htail⟩ := toList_storeBlocks data (data.size / maxBlockSize + 1) 0 front
    rw [hwhole, hbytes] at htail
    have hlength : 9 ≤ whole.size := by
      rw [← length_toList, htail]
      simp [storedFront]
      omega
    have hmark : numberAt whole whole.size 0 4 = 0xFD2FB528 := by
      have hbytes : whole.toList =
          [] ++ (digits 4 0xFD2FB528 ++ (digits 1 0xA0 ++ digits 4 data.size ++ tail)) := by
        rw [htail, storedFront, List.append_assoc, List.append_assoc, List.nil_append]
      exact numberAt_of_toList hbytes (by decide)
    have hheader := read_stored htail hsize hlimit hmin
    have hblocks : readBlocks whole (storedFrame data.size) limit 0 whole.size 9 {} .empty =
        .ok (data, whole.size) := by
      have hread : readBlocks whole (storedFrame data.size) limit 0 whole.size front.size {}
          (data.extract 0 0) = .ok (data, whole.size) :=
        readBlocks_storeBlocks (Nat.le_max_left _ _) rfl hlimit (Nat.pos_of_ne_zero hempty)
          (Nat.le_of_lt (Nat.lt_mul_div_succ data.size (by decide))) hwhole.symm (by omega) {}
      rwa [hnine, ByteArray.extract_same] at hread
    have hdone : ¬limit < data.size := by omega
    have htrue : check true = .ok () := rfl
    have hframe : readFrame whole 4 limit .empty = .ok (data, whole.size) := by
      have hdictionary : (storedFrame data.size).dictionary = 0 := rfl
      have hstated : (storedFrame data.size).size = some data.size := rfl
      have hchecksum : (storedFrame data.size).checksum = false := rfl
      simp [readFrame, hheader, hdictionary, hstated, hchecksum, hblocks, bind, Except.bind, pure,
        Except.pure, htrue, hdone]
    have hopen : ¬whole.size ≤ 0 := by omega
    have hcheck : check (decide (0 + 4 ≤ whole.size)) = .ok () := by
      rw [decide_eq_true (by omega)]
      rfl
    have hend := readFrames_end (Nat.le_refl whole.size) limit whole.size data
    rw [hstore, readFrames, if_neg hopen]
    simp [hcheck, hmark, hframe, bind, Except.bind, hdone, htrue, hend]

end Lanewise.Zstd
