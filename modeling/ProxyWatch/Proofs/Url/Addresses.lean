import ProxyWatch.Proofs.Url.Splitting

/-! Every address that is read is read back from its text. -/
namespace ProxyWatch.Url

theorem mem_toDigits {base n : Nat} {c : Char} (two : 1 < base) (member : c ∈ Nat.toDigits base n) :
    ∃ d < base, c = Nat.digitChar d := by
  induction n using Nat.strongRecOn with
  | ind n ih =>
    by_cases small : n < base
    · rw [Nat.toDigits_of_lt_base small, List.mem_singleton] at member
      exact ⟨n, small, member⟩
    · rw [Nat.toDigits_of_base_le two (Nat.le_of_not_lt small)] at member
      obtain front | last := List.mem_append.mp member
      · exact ih _ (Nat.div_lt_self (by omega) two) front
      · exact ⟨n % base, Nat.mod_lt _ (by omega), List.mem_singleton.mp last⟩

namespace Ipv4

private theorem readNumber_toDigits : ∀ n < 256, readNumber (Nat.toDigits 10 n) = some n := by decide +kernel

/-- The bytes of an address. -/
def bytes (address : Nat) : List Nat := [3, 2, 1, 0].map fun i => address / Nat.pow 256 i % 256

theorem toText_eq (address : Nat) : toText address = joinWith ['.'] ((bytes address).map (Nat.toDigits 10)) := by
  rw [toText, bytes, List.map_map]
  rfl

theorem mem_toText {address : Nat} {c : Char} (member : c ∈ toText address) :
    c = '.' ∨ ∃ d < 10, c = Nat.digitChar d := by
  rw [toText_eq] at member
  obtain same | ⟨part, among, within⟩ := mem_joinWith member
  · exact .inl same
  · obtain ⟨n, -, rfl⟩ := List.mem_map.mp among
    exact .inr (mem_toDigits (by decide) within)

private theorem dot_not_mem_toDigits (n : Nat) : '.' ∉ Nat.toDigits 10 n := by
  intro member
  obtain ⟨d, small, same⟩ := mem_toDigits (by decide) member
  exact (show ∀ d < 10, '.' ≠ Nat.digitChar d by decide) d small same

theorem parts_toText (address : Nat) : parts (toText address) = (bytes address).map (Nat.toDigits 10) := by
  have split : splitOn '.' (toText address) = (bytes address).map (Nat.toDigits 10) := by
    rw [toText_eq]
    refine splitOn_joinWith (by simp [bytes]) fun part member => ?_
    obtain ⟨n, -, rfl⟩ := List.mem_map.mp member
    exact dot_not_mem_toDigits n
  simp [parts, split, bytes]

theorem endsInNumber_toText (address : Nat) : endsInNumber (toText address) = true := by
  have digits : (Nat.toDigits 10 (address % 256)).all Char.isDigit = true := by
    refine List.all_eq_true.mpr fun c member => ?_
    obtain ⟨d, small, rfl⟩ := mem_toDigits (by decide) member
    exact (show ∀ d < 10, (Nat.digitChar d).isDigit = true by decide) d small
  simp [endsInNumber, parts_toText, bytes, digits]

theorem read?_toText {address : Nat} (small : address < 4294967296) : read? (toText address) = some address := by
  have numbers : ((bytes address).map (Nat.toDigits 10)).mapM readNumber = some (bytes address) := by
    have read (n : Nat) : readNumber (Nat.toDigits 10 (n % 256)) = some (n % 256) :=
      readNumber_toDigits _ (Nat.mod_lt _ (by decide))
    simp [bytes, List.mapM_cons, read]
  have sum : address % 256 + address / 16777216 % 256 * 16777216 + address / 65536 % 256 * 65536 +
      address / 256 % 256 * 256 = address := by omega
  have byte (n : Nat) : n % 256 ≤ 255 := Nat.le_of_lt_succ (Nat.mod_lt n (by decide))
  rw [read?, parts_toText, numbers]
  simp [bytes, sum, byte, Nat.mod_lt]

/-- At most three bytes in front of the rest, whatever stands for their weights: computing with these would
unfold the sum. -/
theorem foldl_lt {front : List Nat} {last : Nat} (weight : Nat → Nat) (first : weight 0 = 16777216)
    (second : weight 1 = 65536) (third : weight 2 = 256) (few : front.length ≤ 3) (small : ∀ n ∈ front, n ≤ 255)
    (fits : last < Nat.pow 256 (4 - front.length)) :
    front.zipIdx.foldl (fun sum (n, i) => sum + n * weight i) last < 4294967296 := by
  match front with
  | [] => exact fits
  | [a] =>
    have total : [a].zipIdx.foldl (fun sum (n, i) => sum + n * weight i) last = last + a * weight 0 := rfl
    have low : a ≤ 255 := small a (by simp)
    have fits : last < 16777216 := fits
    rw [total, first]
    omega
  | [a, b] =>
    have total : [a, b].zipIdx.foldl (fun sum (n, i) => sum + n * weight i) last =
      last + a * weight 0 + b * weight 1 := rfl
    obtain ⟨high, low⟩ : a ≤ 255 ∧ b ≤ 255 := by simpa using small
    have fits : last < 65536 := fits
    rw [total, first, second]
    omega
  | [a, b, c] =>
    have total : [a, b, c].zipIdx.foldl (fun sum (n, i) => sum + n * weight i) last =
      last + a * weight 0 + b * weight 1 + c * weight 2 := rfl
    obtain ⟨high, middle, low⟩ : a ≤ 255 ∧ b ≤ 255 ∧ c ≤ 255 := by simpa using small
    have fits : last < 256 := fits
    rw [total, first, second, third]
    omega
  | _ :: _ :: _ :: _ :: _ =>
    simp only [List.length_cons] at few
    omega

/-- What is read are four bytes. -/
theorem lt_of_read? {name : List Char} {address : Nat} (read : read? name = some address) :
    address < 4294967296 := by
  unfold read? at read
  obtain ⟨numbers, -, read⟩ := Option.bind_eq_some_iff.mp read
  obtain ⟨last, -, read⟩ := Option.bind_eq_some_iff.mp read
  dsimp only at read
  generalize numbers.dropLast = front at read
  split at read
  · cases read
  · rename_i within
    cases read
    obtain ⟨few, small, fits⟩ : front.length ≤ 3 ∧ (∀ n ∈ front, n ≤ 255) ∧
        last < Nat.pow 256 (4 - front.length) := by
      simpa [not_or] using within
    exact foldl_lt (fun i => Nat.pow 256 (3 - i)) rfl rfl rfl few small fits

end Ipv4

namespace Ipv6

/-- Eight pieces of two bytes. -/
structure IsAddress (pieces : List Nat) : Prop where
  length : pieces.length = 8
  small : ∀ n ∈ pieces, n < 65536

private theorem foldlM_readBase_lt {base acc n : Nat} {digits : List Char}
    (read : digits.foldlM (fun n c => do
      let d ← hexValue? c
      if d < base then some (n * base + d) else none) acc = some n) :
    n < (acc + 1) * Nat.pow base digits.length := by
  induction digits generalizing acc with
  | nil =>
    cases read
    simp
  | cons c digits ih =>
    rw [List.foldlM_cons] at read
    obtain ⟨next, digit, later⟩ := Option.bind_eq_some_iff.mp read
    obtain ⟨d, -, digit⟩ := Option.bind_eq_some_iff.mp digit
    split at digit
    · rename_i small
      cases digit
      have less : acc * base + d + 1 ≤ (acc + 1) * base := by
        rw [Nat.add_mul]
        omega
      calc n < (acc * base + d + 1) * Nat.pow base digits.length := ih later
        _ ≤ (acc + 1) * base * Nat.pow base digits.length := Nat.mul_le_mul_right _ less
        _ = (acc + 1) * Nat.pow base (c :: digits).length := by
          have next : Nat.pow base (digits.length + 1) = base * Nat.pow base digits.length := Nat.pow_succ'
          rw [List.length_cons, next, Nat.mul_assoc]
    · cases digit

theorem lt_of_readPiece {digits : List Char} {n : Nat} (read : readPiece digits = some n) : n < 65536 := by
  unfold readPiece at read
  split at read
  · cases read
  · rename_i few
    have few : digits.length ≤ 4 := by omega
    have bound := foldlM_readBase_lt read
    calc n < (0 + 1) * Nat.pow 16 digits.length := bound
      _ ≤ Nat.pow 16 4 := by
        rw [Nat.zero_add, Nat.one_mul]
        exact Nat.pow_le_pow_right (by decide) few

private theorem le_of_readByte {digits : List Char} {n : Nat} (read : readByte digits = some n) : n ≤ 255 := by
  unfold readByte at read
  split at read
  · cases read
  · cases read
  · split at read
    · obtain ⟨m, -, read⟩ := Option.bind_eq_some_iff.mp read
      dsimp only at read
      split at read
      · cases read
        assumption
      · cases read
    · cases read

private theorem of_readDotted {text : List Char} {pieces : List Nat} (read : readDotted text = some pieces) :
    pieces.length = 2 ∧ ∀ n ∈ pieces, n < 65536 := by
  unfold readDotted at read
  split at read
  · rename_i a b c d bytes
    cases read
    have small (n : Nat) (member : n ∈ [a, b, c, d]) : n ≤ 255 := by
      obtain ⟨part, -, byte⟩ := exists_of_mem_mapM bytes member
      exact le_of_readByte byte
    have high := small a (by simp)
    have second := small b (by simp)
    have third := small c (by simp)
    have low := small d (by simp)
    refine ⟨rfl, fun n member => ?_⟩
    obtain rfl | rfl : n = a * 256 + b ∨ n = c * 256 + d := by simpa using member
    all_goals omega
  · cases read

/-- Pieces read so far, and the place of the gap among them. -/
structure IsRead (pieces : List Nat) (gap : Option Nat) : Prop where
  small : ∀ n ∈ pieces, n < 65536
  few : pieces.length ≤ 8
  within : ∀ place ∈ gap, place ≤ pieces.length

theorem IsRead.append {pieces more : List Nat} {gap : Option Nat} (known : IsRead pieces gap)
    (small : ∀ n ∈ more, n < 65536) (few : pieces.length + more.length ≤ 8) : IsRead (pieces ++ more) gap where
  small n member := (List.mem_append.mp member).elim (known.small n) (small n)
  few := by rwa [List.length_append]
  within place among := by
    rw [List.length_append]
    exact Nat.le_add_right_of_le (known.within place among)

/-- Every part that is read adds to the pieces, or is the gap. -/
theorem isRead_of_readParts {pieces all : List Nat} {gap hole : Option Nat} {afterGap : Bool}
    {parts : List (List Char)} (known : IsRead pieces gap)
    (read : readParts pieces gap afterGap parts = some (all, hole)) : IsRead all hole := by
  fun_induction readParts pieces gap afterGap parts with
  | case1 | case2 =>
    cases read
    exact known
  | case3 | case4 | case6 | case7 | case10 => cases read
  | case5 pieces gap afterGap rest other room ih =>
    have added := (known.append (by simp) (by simp; omega) : IsRead (pieces ++ [0]) gap)
    exact ih ⟨added.small, added.few, by simp⟩ read
  | case8 pieces gap afterGap part other room dotted fits =>
    obtain ⟨more, dots, same⟩ := Option.bind_eq_some_iff.mp read
    cases same
    obtain ⟨two, small⟩ := of_readDotted dots
    exact known.append small (by omega)
  | case9 pieces gap afterGap part other room plain =>
    obtain ⟨n, piece, same⟩ := Option.bind_eq_some_iff.mp read
    cases same
    exact known.append (by simpa using lt_of_readPiece piece) (by simp; omega)
  | case11 pieces gap afterGap part rest _ _ _ room ih =>
    obtain ⟨n, piece, later⟩ := Option.bind_eq_some_iff.mp read
    exact ih n (known.append (by simpa using lt_of_readPiece piece) (by simp; omega)) later

/-- The pieces that the parts of a text give, before the gap is filled. -/
def readAll : List (List Char) → Option (List Nat × Option Nat)
  | [] :: [] :: rest => readParts [0] (some 1) true rest
  | [] :: _ => none
  | parts => readParts [] none false parts

/-- Eight pieces, with as many zeros in the gap as are missing. -/
def fill : List Nat × Option Nat → Option (List Nat)
  | (pieces, some place) =>
    some (pieces.take place ++ List.replicate (8 - pieces.length) 0 ++ pieces.drop place)
  | (pieces, none) => if pieces.length = 8 then some pieces else none

theorem read?_eq (text : List Char) : read? text = (readAll (splitOn ':' text)).bind fill := by
  unfold read? readAll
  generalize splitOn ':' text = parts
  rcases parts with _ | ⟨_ | ⟨c, first⟩, _ | ⟨_ | ⟨d, second⟩, rest⟩⟩
  all_goals
    refine congrArg (Option.bind _) (funext ?_)
    rintro ⟨pieces, gap⟩
    cases gap <;> rfl

theorem isAddress_of_read? {text : List Char} {pieces : List Nat} (read : read? text = some pieces) :
    IsAddress pieces := by
  have empty : IsRead [] none := ⟨nofun, by decide, nofun⟩
  rw [read?_eq] at read
  obtain ⟨⟨all, hole⟩, parts, filled⟩ := Option.bind_eq_some_iff.mp read
  have known : IsRead all hole := by
    unfold readAll at parts
    split at parts
    · exact isRead_of_readParts ⟨by simp, by decide, by simp⟩ parts
    · cases parts
    · exact isRead_of_readParts empty parts
  have few := known.few
  cases hole with
  | none =>
    rw [fill] at filled
    split at filled
    · rename_i whole
      cases filled
      exact ⟨whole, known.small⟩
    · cases filled
  | some place =>
    have within := known.within place rfl
    cases filled
    refine ⟨by simp; omega, fun n member => ?_⟩
    obtain (before | zero) | after :
        (n ∈ all.take place ∨ n ∈ List.replicate (8 - all.length) 0) ∨ n ∈ all.drop place := by
      simpa only [List.mem_append] using member
    · exact known.small n (List.mem_of_mem_take before)
    · rw [List.eq_of_mem_replicate zero]
      decide
    · exact known.small n (List.mem_of_mem_drop after)

theorem colon_not_mem_toDigits (n : Nat) : ':' ∉ Nat.toDigits 16 n ∧ '.' ∉ Nat.toDigits 16 n := by
  have other : ∀ d < 16, ':' ≠ Nat.digitChar d ∧ '.' ≠ Nat.digitChar d := by decide
  constructor
  all_goals
    intro member
    obtain ⟨d, small, same⟩ := mem_toDigits (by decide) member
  · exact (other d small).1 same
  · exact (other d small).2 same

theorem readPiece_toDigits {n : Nat} (small : n < 65536) : readPiece (Nat.toDigits 16 n) = some n := by
  have few : (Nat.toDigits 16 n).length ≤ 4 := (Nat.length_toDigits_le_iff (by decide) (by decide)).mpr small
  have some : (Nat.toDigits 16 n).isEmpty = false := by simp
  rw [readPiece, if_neg (by simp [some, few]), readBase_toDigits (by decide) (by decide)]

theorem readParts_front {pieces front : List Nat} {gap : Option Nat} {rest : List (List Char)}
    (small : ∀ n ∈ front, n < 65536) (room : pieces.length + front.length ≤ 8) (more : rest ≠ [])
    (some : front ≠ []) (afterGap : Bool) :
    readParts pieces gap afterGap (front.map (Nat.toDigits 16) ++ rest) =
      readParts (pieces ++ front) gap false rest := by
  induction front generalizing pieces afterGap with
  | nil => exact absurd rfl some
  | cons n front ih =>
    have first := readPiece_toDigits (small n List.mem_cons_self)
    have here : ¬ 8 ≤ pieces.length := by simp at room; omega
    have step : readParts pieces gap afterGap ((n :: front).map (Nat.toDigits 16) ++ rest) =
        readParts (pieces ++ [n]) gap false (front.map (Nat.toDigits 16) ++ rest) := by
      rw [List.map_cons, List.cons_append, readParts]
      · simp [here, first]
      all_goals simp [more]
    rw [step]
    cases front with
    | nil => simp
    | cons m front =>
      rw [ih (fun k later => small k (.tail _ later)) (by simp at room ⊢; omega) nofun]
      simp

theorem readParts_last {pieces : List Nat} {n : Nat} {gap : Option Nat} {afterGap : Bool} (small : n < 65536)
    (room : pieces.length < 8) :
    readParts pieces gap afterGap [Nat.toDigits 16 n] = some (pieces ++ [n], gap) := by
  rw [readParts]
  · simp [Nat.not_le.mpr room, readPiece_toDigits small, (colon_not_mem_toDigits n).2]
  · simp

theorem readParts_all {pieces tail : List Nat} {gap : Option Nat} (small : ∀ n ∈ tail, n < 65536)
    (room : pieces.length + tail.length ≤ 8) (some_ : tail ≠ []) (afterGap : Bool) :
    readParts pieces gap afterGap (tail.map (Nat.toDigits 16)) = some (pieces ++ tail, gap) := by
  obtain ⟨front, last, rfl⟩ : ∃ front last, tail = front ++ [last] :=
    ⟨_, _, (List.dropLast_concat_getLast some_).symm⟩
  have ⟨smallFront, smallLast⟩ : (∀ n ∈ front, n < 65536) ∧ last < 65536 := by
    simpa [or_imp, forall_and] using small
  rw [List.length_append, List.length_singleton] at room
  by_cases single : front = []
  · subst single
    exact readParts_last smallLast (by simp at room; omega)
  · rw [List.map_append, List.map_singleton, readParts_front smallFront (by omega) (by simp) single,
      readParts_last smallLast (by rw [List.length_append]; omega), List.append_assoc]

private theorem readParts_behind {pieces tail : List Nat} {gap : Option Nat} (small : ∀ n ∈ tail, n < 65536)
    (room : pieces.length + tail.length ≤ 8) :
    readParts pieces gap true (splitOn ':' (hexText tail)) = some (pieces ++ tail, gap) := by
  cases tail with
  | nil => simp [hexText, joinWith, splitOn, readParts]
  | cons n tail =>
    rw [hexText, splitOn_joinWith (by simp), readParts_all small room (List.cons_ne_nil n tail)]
    intro part member
    obtain ⟨m, -, rfl⟩ := List.mem_map.mp member
    exact (colon_not_mem_toDigits m).1

private theorem zeroRun_spec (pieces : List Nat) :
    pieces = List.replicate (zeroRun pieces) 0 ++ pieces.drop (zeroRun pieces) := by
  induction pieces with
  | nil => rfl
  | cons n pieces ih =>
    by_cases zero : n = 0
    · subst zero
      simpa [zeroRun, List.replicate_succ] using ih
    · simp [zeroRun, zero]

private theorem longestRun_spec {pieces : List Nat} {place length : Nat}
    (found : longestRun pieces = some (place, length)) :
    2 ≤ length ∧ place < 8 ∧ length = zeroRun (pieces.drop place) := by
  have among (runs : List (Nat × Nat)) (best : Nat × Nat) :
      runs.foldl (fun best run => if best.2 < run.2 then run else best) best = best ∨
        runs.foldl (fun best run => if best.2 < run.2 then run else best) best ∈ runs := by
    induction runs generalizing best with
    | nil => exact .inl rfl
    | cons run runs ih =>
      rw [List.foldl_cons]
      split
      · obtain same | later := ih run
        · exact .inr (by rw [same]; exact List.mem_cons_self)
        · exact .inr (.tail _ later)
      · exact (ih best).imp id (.tail _)
  unfold longestRun at found
  dsimp only at found
  split at found
  · rename_i two
    have best := Option.some.inj found
    rw [best] at two
    obtain none | member := among ((List.range 8).map fun i => (i, zeroRun (pieces.drop i))) (0, 0)
    · rw [best] at none
      cases none
      cases two
    · rw [best] at member
      obtain ⟨i, inRange, same⟩ := List.mem_map.mp member
      cases same
      exact ⟨two, List.mem_range.mp inRange, rfl⟩
  · cases found

theorem plain_of_mem_map {pieces : List Nat} {part : List Char} (member : part ∈ pieces.map (Nat.toDigits 16)) :
    ':' ∉ part := by
  obtain ⟨n, -, rfl⟩ := List.mem_map.mp member
  exact (colon_not_mem_toDigits n).1

theorem readAll_cons {part : List Char} (some : part ≠ []) (rest : List (List Char)) :
    readAll (part :: rest) = readParts [] none false (part :: rest) := by
  obtain ⟨c, digits, rfl⟩ := List.exists_cons_of_ne_nil some
  rfl

/-- A gap is filled with the zeros that it stands for. -/
theorem fill_gap {front tail : List Nat} {length : Nat} (two : 2 ≤ length)
    (whole : front.length + length + tail.length = 8) :
    fill (front ++ [0] ++ tail, some (front.length + 1)) = some (front ++ List.replicate length 0 ++ tail) := by
  obtain ⟨more, rfl⟩ : ∃ more, length = more + 1 := ⟨length - 1, by omega⟩
  have missing : 8 - (front ++ [0] ++ tail).length = more := by simp; omega
  have cut : (front ++ [0]).length = front.length + 1 := by simp
  rw [fill, missing, ← cut, List.take_left, List.drop_left, List.replicate_succ]
  simp

/-- Every address is read back from its text. -/
theorem read?_toText {pieces : List Nat} (known : IsAddress pieces) : read? (toText pieces) = some pieces := by
  obtain ⟨whole, small⟩ := known
  rw [read?_eq, toText]
  cases run : longestRun pieces with
  | none =>
    obtain ⟨n, rest, rfl⟩ : ∃ n rest, pieces = n :: rest := List.exists_cons_of_length_eq_add_one whole
    have split : splitOn ':' (hexText (n :: rest)) = (n :: rest).map (Nat.toDigits 16) :=
      splitOn_joinWith (by simp) fun part => plain_of_mem_map
    have read : readParts [] none false ((n :: rest).map (Nat.toDigits 16)) = some (n :: rest, none) :=
      readParts_all small (by simp [whole]) nofun false
    rw [List.map_cons] at split read
    simp only [split]
    rw [readAll_cons Nat.toDigits_ne_nil, read]
    simp [fill, whole]
  | some found =>
    obtain ⟨place, length⟩ := found
    obtain ⟨two, before, zeros⟩ := longestRun_spec run
    have rest := zeroRun_spec (pieces.drop place)
    rw [← zeros, List.drop_drop] at rest
    have parted : pieces = pieces.take place ++ List.replicate length 0 ++ pieces.drop (place + length) := by
      rw [List.append_assoc, ← rest, List.take_append_drop]
    simp only
    generalize pieces.take place = front at parted
    generalize pieces.drop (place + length) = tail at parted
    clear rest zeros run
    subst parted
    have whole : front.length + length + tail.length = 8 := by simpa [Nat.add_assoc] using whole
    have smallFront : ∀ n ∈ front, n < 65536 := fun n member => small n (by simp [member])
    have smallTail : ∀ n ∈ tail, n < 65536 := fun n member => small n (by simp [member])
    have read : readAll (splitOn ':' (hexText front ++ [':', ':'] ++ hexText tail)) =
        some (front ++ [0] ++ tail, some (front.length + 1)) := by
      have behind : readParts (front ++ [0]) (some (front.length + 1)) true (splitOn ':' (hexText tail)) =
          some (front ++ [0] ++ tail, some (front.length + 1)) :=
        readParts_behind smallTail (by simp; omega)
      cases front with
      | nil =>
        have split : splitOn ':' (hexText [] ++ [':', ':'] ++ hexText tail) =
            [] :: [] :: splitOn ':' (hexText tail) := by
          simp [hexText, joinWith, splitOn]
        rw [split]
        exact behind
      | cons n front =>
        have split : splitOn ':' (hexText (n :: front) ++ [':', ':'] ++ hexText tail) =
            (n :: front).map (Nat.toDigits 16) ++ [] :: splitOn ':' (hexText tail) := by
          rw [List.append_assoc]
          refine (splitOn_joinWith_append (by simp) (fun part => plain_of_mem_map) _).trans ?_
          simp [splitOn]
        have gap : readParts (n :: front) none false ([] :: splitOn ':' (hexText tail)) =
            readParts (n :: front ++ [0]) (some ((n :: front).length + 1)) true (splitOn ':' (hexText tail)) := by
          rw [readParts, if_neg (by simp at whole ⊢; omega)]
          exact splitOn_ne_nil ':' (hexText tail)
        have room : ([] : List Nat).length + (n :: front).length ≤ 8 := by simp at whole ⊢; omega
        rw [split, List.map_cons, List.cons_append, readAll_cons Nat.toDigits_ne_nil, ← List.cons_append,
          ← List.map_cons, readParts_front smallFront room (List.cons_ne_nil _ _) (List.cons_ne_nil _ _),
          List.nil_append, gap, behind]
    rw [read]
    exact fill_gap two whole

end Ipv6
end ProxyWatch.Url
