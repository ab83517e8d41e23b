import Concordance.Word

/-!
# What files hold

The body of a file is a list of stretches: bytes as they were written, and holes, which read as
zeros and take no room. So a file may be longer than anything that was ever written to it, and a
few bytes from the middle of a long file are found without looking at the others.

`FileBody.toList` gives all bytes. Each operation comes with a lemma that says what it does to
them, and nothing else about the stretches matters.
-/
namespace Concordance

/-- Part of a file. -/
inductive Stretch
  | written (bytes : ByteArray)
  | hole (length : Nat)

namespace Stretch

instance : DecidableEq Stretch
  | .written left, .written right =>
    decidable_of_iff (left.data = right.data) (by rw [Stretch.written.injEq, ByteArray.ext_iff])
  | .hole left, .hole right => decidable_of_iff (left = right) (by rw [Stretch.hole.injEq])
  | .written _, .hole _ => isFalse nofun
  | .hole _, .written _ => isFalse nofun

def toList : Stretch → Bytes
  | .written bytes => bytes.data.toList
  | .hole length => List.replicate length 0

def size : Stretch → Nat
  | .written bytes => bytes.size
  | .hole length => length

/-- At most `count` bytes from `start` on. -/
def slice (start count : Nat) : Stretch → Bytes
  | .written bytes => (bytes.extract start (start + count)).data.toList
  | .hole length => List.replicate (min count (length - start)) 0

/-- The first `count` bytes. -/
def take (count : Nat) : Stretch → Stretch
  | .written bytes => .written (bytes.extract 0 count)
  | .hole length => .hole (min count length)

/-- All bytes after the first `count`. -/
def drop (count : Nat) : Stretch → Stretch
  | .written bytes => .written (bytes.extract count bytes.size)
  | .hole length => .hole (length - count)

@[simp]
theorem length_toList (stretch : Stretch) : stretch.toList.length = stretch.size := by
  cases stretch with
  | written bytes => simp [toList, size]
  | hole length => simp [toList, size]

theorem slice_eq (start count : Nat) (stretch : Stretch) :
    stretch.slice start count = (stretch.toList.drop start).take count := by
  cases stretch with
  | written bytes => simp [toList, slice, List.extract_eq_take_drop]
  | hole length => simp [toList, slice]

@[simp]
theorem toList_take (count : Nat) (stretch : Stretch) :
    (stretch.take count).toList = stretch.toList.take count := by
  cases stretch with
  | written bytes => simp [toList, take, List.extract_eq_take_drop]
  | hole length => simp [toList, take]

@[simp]
theorem toList_drop (count : Nat) (stretch : Stretch) :
    (stretch.drop count).toList = stretch.toList.drop count := by
  cases stretch with
  | written bytes =>
    have whole : (bytes.data.toList.drop count).length ≤ bytes.size - count := by simp
    simp [toList, drop, List.take_of_length_le whole]
  | hole length => simp [toList, drop]

end Stretch

structure FileBody where
  stretches : List Stretch
  deriving DecidableEq

namespace FileBody

def empty : FileBody := ⟨[]⟩

def toList (body : FileBody) : Bytes := body.stretches.flatMap Stretch.toList

def size (body : FileBody) : Nat :=
  body.stretches.foldr (fun stretch size => stretch.size + size) 0

@[simp]
theorem toList_empty : empty.toList = [] := rfl

@[simp]
theorem length_toList (body : FileBody) : body.toList.length = body.size := by
  obtain ⟨stretches⟩ := body
  simp only [toList, size]
  induction stretches with
  | nil => rfl
  | cons stretch rest ih =>
    rw [List.flatMap_cons, List.length_append, Stretch.length_toList, ih, List.foldr_cons]

/-! ### Reading -/

/-- At most `count` bytes from `start` on, of what `stretches` hold. -/
def sliceOf : (stretches : List Stretch) → (start count : Nat) → Bytes
  | [], _, _ => []
  | stretch :: rest, start, count =>
    if stretch.size ≤ start then sliceOf rest (start - stretch.size) count
    else
      let here := stretch.slice start count
      if here.length = count then here else here ++ sliceOf rest 0 (count - here.length)

/-- At most `count` bytes from `start` on. -/
def slice (body : FileBody) (start count : Nat) : Bytes := sliceOf body.stretches start count

theorem slice_eq (body : FileBody) (start count : Nat) :
    body.slice start count = (body.toList.drop start).take count := by
  obtain ⟨stretches⟩ := body
  simp only [slice, toList]
  induction stretches generalizing start count with
  | nil => simp [sliceOf]
  | cons stretch rest ih =>
    simp only [sliceOf, List.flatMap_cons, Stretch.slice_eq]
    split
    · next before =>
      have passed : stretch.toList.length ≤ start := by simpa using before
      rw [ih, List.drop_append, List.drop_of_length_le passed]
      simp
    · next within =>
      have inside : start - stretch.toList.length = 0 := by simp; omega
      rw [List.drop_append, inside, List.drop_zero, List.take_append]
      split
      · next full =>
        rw [show count - (stretch.toList.drop start).length = 0 by
          simp only [List.length_take] at full; omega]
        simp
      · next short =>
        have all : (stretch.toList.drop start).length ≤ count := by
          simp only [List.length_take] at short; omega
        rw [ih, List.drop_zero, List.take_of_length_le all]

/-! ### Changing -/

/-- Adds bytes after the last stretch. -/
def appendTo (bytes : ByteArray) : List Stretch → List Stretch
  | [] => [.written bytes]
  | [.written before] => [.written (before ++ bytes)]
  | stretch :: rest => stretch :: appendTo bytes rest

/-- Adds bytes at the end. -/
def append (body : FileBody) (bytes : Bytes) : FileBody :=
  ⟨appendTo bytes.toByteArray body.stretches⟩

@[simp]
theorem toList_append (body : FileBody) (bytes : Bytes) :
    (body.append bytes).toList = body.toList ++ bytes := by
  obtain ⟨stretches⟩ := body
  simp only [append, toList]
  fun_induction appendTo bytes.toByteArray stretches with
  | case1 => simp [Stretch.toList]
  | case2 before => simp [Stretch.toList]
  | case3 stretch rest _ ih => simp [ih]

/-- What is left of `stretches` when they end after `count` bytes. -/
def takeOf (count : Nat) : (stretches : List Stretch) → List Stretch
  | [] => []
  | stretch :: rest =>
    if stretch.size ≤ count then stretch :: takeOf (count - stretch.size) rest
    else [stretch.take count]

/-- The first `count` bytes. -/
def take (body : FileBody) (count : Nat) : FileBody := ⟨takeOf count body.stretches⟩

@[simp]
theorem toList_take (body : FileBody) (count : Nat) :
    (body.take count).toList = body.toList.take count := by
  obtain ⟨stretches⟩ := body
  simp only [take, toList]
  induction stretches generalizing count with
  | nil => simp [takeOf]
  | cons stretch rest ih =>
    simp only [takeOf, List.flatMap_cons, List.take_append, Stretch.length_toList]
    split
    · next whole =>
      have inside : stretch.toList.length ≤ count := by simpa using whole
      rw [List.flatMap_cons, ih, List.take_of_length_le inside]
    · next part =>
      rw [show count - stretch.size = 0 by omega]
      simp

/-- What is left of `stretches` without their first `count` bytes. -/
def dropOf (count : Nat) : (stretches : List Stretch) → List Stretch
  | [] => []
  | stretch :: rest =>
    if stretch.size ≤ count then dropOf (count - stretch.size) rest
    else stretch.drop count :: rest

/-- All bytes after the first `count`. -/
def drop (body : FileBody) (count : Nat) : FileBody := ⟨dropOf count body.stretches⟩

@[simp]
theorem toList_drop (body : FileBody) (count : Nat) :
    (body.drop count).toList = body.toList.drop count := by
  obtain ⟨stretches⟩ := body
  simp only [drop, toList]
  induction stretches generalizing count with
  | nil => simp [dropOf]
  | cons stretch rest ih =>
    simp only [dropOf, List.flatMap_cons, List.drop_append, Stretch.length_toList]
    split
    · next whole =>
      have inside : stretch.toList.length ≤ count := by simpa using whole
      rw [ih, List.drop_of_length_le inside]
      simp
    · next part =>
      rw [show count - stretch.size = 0 by omega]
      simp

/-- Cuts the body to the given size, or fills it up with zeros. -/
def resize (body : FileBody) (size : Nat) : FileBody :=
  if size ≤ body.size then body.take size
  else ⟨body.stretches ++ [.hole (size - body.size)]⟩

theorem toList_resize (body : FileBody) (size : Nat) :
    (body.resize size).toList =
      body.toList.take size ++ List.replicate (size - body.size) 0 := by
  unfold resize
  split
  · next shorter => simp [Nat.sub_eq_zero_of_le shorter]
  · next longer =>
    rw [List.take_of_length_le (by simp; omega)]
    simp [toList, Stretch.toList]

/-- Overwrites the bytes from `start` on; a gap before them is filled with zeros. -/
def patch (body : FileBody) (start : Nat) (bytes : Bytes) : FileBody :=
  if bytes = [] then body
  else
    ⟨((body.resize start).append bytes).stretches ++
      (body.drop (start + bytes.length)).stretches⟩

theorem toList_patch (body : FileBody) (start : Nat) {bytes : Bytes} (some : bytes ≠ []) :
    (body.patch start bytes).toList =
      body.toList.take start ++ List.replicate (start - body.size) 0 ++ bytes ++
        body.toList.drop (start + bytes.length) := by
  have joined (left right : FileBody) :
      (FileBody.mk (left.stretches ++ right.stretches)).toList = left.toList ++ right.toList := by
    simp [toList]
  rw [patch, if_neg some, joined, toList_append, toList_resize, toList_drop]

end FileBody

end Concordance
