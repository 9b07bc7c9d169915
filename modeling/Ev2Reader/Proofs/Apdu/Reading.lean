import Ev2Reader.Apdu.Command

/-!
# Reading Short Commands

The byte behind the header of a short command is the count of its data, or its expected length if
there is no data, or it is missing. Nothing in the byte tells which; the number of bytes in the
message does. The reader below goes by that number alone, and a count of zero is no count, so that
every command has one message and every message that is read is that of one command.

## Main results

* `Command.counted_cases` — how data is counted: never with zero, and never cut short;
* `Command.readFields?_eq_some_iff` — reading what is behind the header accepts exactly what
  writing it produces;
* `Command.unambiguous` — **short commands are written without ambiguity.**
-/

namespace Ev2Reader.Apdu.Command

/-! ### The reader -/

/-- The data field and the expected length, read from what is behind the header. A single byte is
an expected length; the first of several is the count of the data, with which the message ends or
which one byte follows. -/
def readFields? : Bytes → Option (Bytes × Option UInt8)
  | [] => some ([], none)
  | [le] => some ([], some le)
  | count :: rest =>
    if count ≠ 0 ∧ count.toNat ≤ rest.length then
      match rest.drop count.toNat with
      | [] => some (rest.take count.toNat, none)
      | [le] => some (rest.take count.toNat, some le)
      | _ => none
    else none

/-- **Reads a short command,** by the number of bytes in the message and the count of its data. -/
def read? : Bytes → Option Command
  | cla :: ins :: p1 :: p2 :: rest =>
    match readFields? rest with
    | some (data, le) => (make cla ins p1 p2 data le).toOption
    | none => none
  | _ => none

/-! ### Counted data -/

/-- Data with a count that is not zero is not empty. -/
theorem ne_nil_of_count {count : UInt8} {data : Bytes} (hcount : count ≠ 0)
    (hlength : data.length = count.toNat) : data ≠ [] := by
  rintro rfl
  exact hcount (UInt8.toNat_inj.1 hlength.symm)

/-- Data with a count that is not zero is written behind it. -/
theorem counted_of_count {count : UInt8} {data : Bytes} (hcount : count ≠ 0)
    (hlength : data.length = count.toNat) : counted data = count :: data := by
  rw [counted, if_neg (ne_nil_of_count hcount hlength), hlength, UInt8.ofNat_toNat]

/-- **How data is counted:** not at all if there is none, and else by its whole length, which is
not zero. -/
theorem counted_cases {data : Bytes} (h : data.length ≤ maxDataBytes) :
    (data = [] ∧ counted data = []) ∨
      ∃ count : UInt8, count ≠ 0 ∧ data.length = count.toNat ∧ counted data = count :: data := by
  by_cases hdata : data = []
  · exact .inl ⟨hdata, if_pos hdata⟩
  · have hcount : (UInt8.ofNat data.length).toNat = data.length := by
      rw [maxDataBytes] at h
      rw [UInt8.toNat_ofNat']
      omega
    refine .inr ⟨UInt8.ofNat data.length, fun hzero => hdata ?_, hcount.symm, if_neg hdata⟩
    rw [hzero] at hcount
    exact List.length_eq_zero_iff.1 hcount.symm

/-! ### Behind the header -/

/-- What follows a first byte and is not empty is read by the count in that byte. -/
theorem readFields?_cons (count : UInt8) {rest : Bytes} (h : rest ≠ []) :
    readFields? (count :: rest) =
      if count ≠ 0 ∧ count.toNat ≤ rest.length then
        match rest.drop count.toNat with
        | [] => some (rest.take count.toNat, none)
        | [le] => some (rest.take count.toNat, some le)
        | _ => none
      else none := by
  cases rest with
  | nil => exact absurd rfl h
  | cons => rfl

/-- Counted data and an expected length are read back. -/
theorem readFields?_counted {data : Bytes} (h : data.length ≤ maxDataBytes) (le : Option UInt8) :
    readFields? (counted data ++ le.toList) = some (data, le) := by
  rcases counted_cases h with ⟨rfl, hcounted⟩ | ⟨count, hcount, hlength, hcounted⟩
  · rw [hcounted]
    cases le <;> rfl
  · have hrest : data ++ le.toList ≠ [] :=
      List.append_ne_nil_of_left_ne_nil (ne_nil_of_count hcount hlength) _
    have hfits : count.toNat ≤ (data ++ le.toList).length := by
      rw [List.length_append]
      omega
    rw [hcounted, List.cons_append, readFields?_cons count hrest, if_pos ⟨hcount, hfits⟩,
      List.drop_left' hlength, List.take_left' hlength]
    cases le <;> rfl

/-- **Reading what is behind the header** accepts exactly counted data, at most as much as one byte
counts, with or without an expected length. -/
theorem readFields?_eq_some_iff {rest data : Bytes} {le : Option UInt8} :
    readFields? rest = some (data, le) ↔
      data.length ≤ maxDataBytes ∧ rest = counted data ++ le.toList := by
  refine ⟨fun h => ?_, fun ⟨hlength, hrest⟩ => hrest ▸ readFields?_counted hlength le⟩
  rw [readFields?.eq_def] at h
  split at h
  next =>
    cases h
    exact ⟨Nat.zero_le _, rfl⟩
  next =>
    cases h
    exact ⟨Nat.zero_le _, rfl⟩
  next count tail _ =>
    split at h
    next hcount =>
      have hlength : (tail.take count.toNat).length = count.toNat := by
        rw [List.length_take]
        omega
      have hbound : (tail.take count.toNat).length ≤ maxDataBytes := by
        have := count.toNat_lt
        rw [hlength, maxDataBytes]
        omega
      -- what is left behind the data is the expected length, if there is one
      have hwritten (le : Option UInt8) (hdrop : tail.drop count.toNat = le.toList) :
          count :: tail = counted (tail.take count.toNat) ++ le.toList := by
        rw [counted_of_count hcount.1 hlength, List.cons_append, ← hdrop, List.take_append_drop]
      split at h
      next hdrop =>
        cases h
        exact ⟨hbound, hwritten none hdrop⟩
      next le' hdrop =>
        cases h
        exact ⟨hbound, hwritten (some le') hdrop⟩
      next => cases h
    next => cases h

/-! ### Commands -/

variable {cla ins p1 p2 : UInt8} {data : Bytes} {le : Option UInt8}

/-- A command is accepted from its own fields. -/
theorem make_fields (c : Command) : make c.cla c.ins c.p1 c.p2 c.data c.le = .ok c :=
  make_eq_ok_iff.2 ⟨rfl, rfl, rfl, rfl, rfl, rfl⟩

/-- A command is accepted exactly if one byte counts its data. -/
theorem exists_make_iff :
    (∃ c, make cla ins p1 p2 data le = .ok c) ↔ data.length ≤ maxDataBytes := by
  constructor
  · rintro ⟨c, hc⟩
    obtain ⟨-, -, -, -, rfl, -⟩ := make_eq_ok_iff.1 hc
    exact c.length_data_le
  · intro h
    exact ⟨_, dif_pos h⟩

/-- A command is refused exactly if one byte does not count its data, and then as too large. -/
theorem make_eq_error_iff {e : Fault} :
    make cla ins p1 p2 data le = .error e ↔
      maxDataBytes < data.length ∧ e = .payloadTooLarge maxDataBytes := by
  unfold make
  split
  next h => simp [Nat.not_lt.2 h]
  next h => simp [Nat.lt_of_not_le h, eq_comm]

/-- **Reading a command** accepts exactly the messages of commands, each as its own. -/
theorem read?_eq_some_iff {message : Bytes} {c : Command} :
    read? message = some c ↔ message = c.bytes := by
  constructor
  · intro h
    unfold read? at h
    split at h
    next cla ins p1 p2 rest =>
      split at h
      next data le hrest =>
        obtain ⟨hlength, rfl⟩ := readFields?_eq_some_iff.1 hrest
        rw [make, dif_pos hlength] at h
        cases h
        simp only [bytes, List.cons_append, List.nil_append]
      next => cases h
    next => cases h
  · rintro rfl
    have hfields := readFields?_counted c.length_data_le c.le
    simp only [bytes, List.cons_append, List.nil_append, read?, hfields, make_fields]
    rfl

/-- The message of a command determines it. -/
theorem bytes_inj {c c' : Command} : c.bytes = c'.bytes ↔ c = c' := by
  refine ⟨fun h => ?_, congrArg bytes⟩
  have hread : read? c.bytes = some c := read?_eq_some_iff.2 rfl
  rw [h, read?_eq_some_iff.2 rfl] at hread
  exact (Option.some.inj hread).symm

/-- Commands are equal exactly if their fields are. -/
theorem eq_iff_fields {c c' : Command} :
    c = c' ↔ c.cla = c'.cla ∧ c.ins = c'.ins ∧ c.p1 = c'.p1 ∧ c.p2 = c'.p2 ∧
      c.data = c'.data ∧ c.le = c'.le := by
  cases c
  cases c'
  simp only [mk.injEq]

/-- **Short commands are written without ambiguity.** A command is accepted exactly if its data has
at most 255 bytes, and is refused as too large otherwise. The message of a command determines each
of its fields, and the reader, which knows nothing but the number of bytes and the count, reads
exactly the messages of commands back. If there is data, the count is its whole length and not
zero. -/
theorem unambiguous :
    (∀ cla ins p1 p2 data le, (∃ c, make cla ins p1 p2 data le = .ok c) ↔ data.length ≤ 255) ∧
    (∀ cla ins p1 p2 data le e, make cla ins p1 p2 data le = .error e ↔
      255 < data.length ∧ e = .payloadTooLarge 255) ∧
    (∀ cla ins p1 p2 data le c, make cla ins p1 p2 data le = .ok c ↔
      c.cla = cla ∧ c.ins = ins ∧ c.p1 = p1 ∧ c.p2 = p2 ∧ c.data = data ∧ c.le = le) ∧
    (∀ c c' : Command, c.bytes = c'.bytes ↔
      c.cla = c'.cla ∧ c.ins = c'.ins ∧ c.p1 = c'.p1 ∧ c.p2 = c'.p2 ∧
        c.data = c'.data ∧ c.le = c'.le) ∧
    (∀ message c, read? message = some c ↔ message = c.bytes) ∧
    (∀ c : Command,
      (c.data = [] ∧ c.bytes = [c.cla, c.ins, c.p1, c.p2] ++ c.le.toList) ∨
      ∃ count : UInt8, count ≠ 0 ∧ count.toNat = c.data.length ∧
        c.bytes = [c.cla, c.ins, c.p1, c.p2] ++ count :: (c.data ++ c.le.toList)) := by
  refine ⟨fun _ _ _ _ _ _ => exists_make_iff, fun _ _ _ _ _ _ _ => make_eq_error_iff,
    fun _ _ _ _ _ _ _ => make_eq_ok_iff, fun _ _ => bytes_inj.trans eq_iff_fields,
    fun _ _ => read?_eq_some_iff, fun c => ?_⟩
  rcases counted_cases c.length_data_le with ⟨hdata, hcounted⟩ | ⟨count, hcount, hlength, hcounted⟩
  · exact .inl ⟨hdata, by rw [bytes, hcounted, List.append_nil]⟩
  · refine .inr ⟨count, hcount, hlength.symm, ?_⟩
    rw [bytes, hcounted, List.append_assoc]
    rfl

end Ev2Reader.Apdu.Command
