import Brainfuck.Sink
import Brainfuck.Source

/-!
# Laws of sources and sinks

A text stands for the bytes that are its code points (`Brainfuck.Text.bytesOf?_eq_some_iff`). The
source in memory is a queue: reading takes the first of the bytes that are left
(`Brainfuck.Buffer.unread`) and feeding puts bytes behind them. Of any source no more can be told
by reading than what is pending in it (`Brainfuck.Source.pending`). A sink collects what is
written to it, so that it does not matter in how many pieces that is done.
-/

namespace Brainfuck

namespace Text

/-! ### Texts as bytes -/

/-- A character stands for the byte that is its code point. -/
theorem byteOf?_eq_some_iff {c : Char} {b : UInt8} : byteOf? c = some b ↔ c.toNat = b.toNat := by
  rw [byteOf?]
  split
  next h => rw [Option.some.injEq, ← UInt8.toNat_inj, UInt8.toNat_ofNat', Nat.mod_eq_of_lt h]
  next h =>
    have hlt := b.toNat_lt
    exact iff_of_false nofun (by omega)

/-- **A text stands for the bytes that are its code points.** -/
theorem bytesOf?_eq_some_iff {s : String} {bytes : List UInt8} :
    bytesOf? s = some bytes ↔ s.toList.map Char.toNat = bytes.map UInt8.toNat := by
  rw [bytesOf?]
  generalize s.toList = cs
  induction cs generalizing bytes with
  | nil => cases bytes <;> simp
  | cons c cs ih =>
    rw [List.mapM_cons]
    cases bytes with
    | nil => simp [Option.bind_eq_some_iff]
    | cons b bs => simp [Option.bind_eq_some_iff, byteOf?_eq_some_iff, ih]

/-- A text stands for no bytes just if one of its code points is none. -/
theorem bytesOf?_eq_none_iff {s : String} :
    bytesOf? s = none ↔ ∃ c ∈ s.toList, 0xFF < c.toNat := by
  constructor
  · intro hnone
    refine Classical.byContradiction fun hwide => ?_
    have hbytes : bytesOf? s = some (s.toList.map fun c => UInt8.ofNat c.toNat) := by
      rw [bytesOf?_eq_some_iff, List.map_map]
      refine List.map_congr_left fun c hc => ?_
      have hle : c.toNat ≤ 0xFF := Nat.not_lt.mp fun hlt => hwide ⟨c, hc, hlt⟩
      rw [Function.comp_apply, UInt8.toNat_ofNat', Nat.mod_eq_of_lt (by omega)]
    rw [hnone] at hbytes
    cases hbytes
  · rintro ⟨c, hc, hwide⟩
    rcases hs : bytesOf? s with _ | bytes
    · rfl
    · have hmem := List.mem_map_of_mem (f := Char.toNat) hc
      rw [bytesOf?_eq_some_iff.mp hs] at hmem
      obtain ⟨b, -, hb⟩ := List.mem_map.mp hmem
      have hlt := b.toNat_lt
      omega

end Text

namespace Buffer

/-- Reading takes the first byte that is left. -/
theorem read_of_unread_cons {b : Buffer} {byte : UInt8} {rest : List UInt8}
    (h : b.unread = byte :: rest) : ∃ c, b.read = (some byte, c) ∧ c.unread = rest := by
  have hlt : b.position < b.data.size := by
    have hlen := congrArg List.length h
    rw [unread, List.length_drop, Array.length_toList, List.length_cons] at hlen
    omega
  have hcons : b.unread = b.data[b.position] :: b.data.toList.drop (b.position + 1) := by
    rw [unread, List.drop_eq_getElem_cons (by simpa using hlt)]
    rfl
  rw [hcons, List.cons.injEq] at h
  refine ⟨⟨b.data, b.position + 1, hlt⟩, ?_, h.2⟩
  rw [read, dif_pos hlt, h.1]

/-- Nothing is read when nothing is left. -/
theorem read_of_unread_nil {b : Buffer} (h : b.unread = []) : b.read = (none, b) := by
  have hle : ¬b.position < b.data.size := by
    have hlen := congrArg List.length h
    rw [unread, List.length_drop, Array.length_toList, List.length_nil] at hlen
    omega
  rw [read, dif_neg hle]

/-- Feeding puts bytes behind those that are left. -/
theorem unread_feed (b : Buffer) (bytes : List UInt8) :
    (b.feed bytes).unread = b.unread ++ bytes := by
  have hdrop : (b.data.extract b.position b.data.size).toList = b.data.toList.drop b.position := by
    rw [Array.toList_extract, List.extract_eq_take_drop]
    exact List.take_of_length_le (by simp)
  rw [unread, feed, List.drop_zero, Array.toList_append, hdrop]
  rfl

end Buffer

namespace Source

/-- The bytes that are left in a source in memory. -/
def unread? : Source → Option (List UInt8)
  | buffer b => some b.unread
  | _ => none

theorem exists_buffer {s : Source} {bytes : List UInt8} (h : s.unread? = some bytes) :
    ∃ b : Buffer, s = .buffer b ∧ b.unread = bytes := by
  cases s with
  | buffer b => exact ⟨b, rfl, by simpa [unread?] using h⟩
  | empty => cases h
  | stream rest => cases h
  | text rest => cases h

theorem read_of_unread?_cons {s : Source} {byte : UInt8} {rest : List UInt8}
    (h : s.unread? = some (byte :: rest)) :
    ∃ t, s.read = (.ok (some byte), t) ∧ t.unread? = some rest := by
  obtain ⟨b, rfl, hb⟩ := exists_buffer h
  obtain ⟨c, hc, hrest⟩ := Buffer.read_of_unread_cons hb
  exact ⟨.buffer c, by rw [read, hc], by rw [unread?, hrest]⟩

theorem read_of_unread?_nil {s : Source} (h : s.unread? = some []) :
    s.read = (.ok none, s) := by
  obtain ⟨b, rfl, hb⟩ := exists_buffer h
  rw [read, Buffer.read_of_unread_nil hb]

/-- What is still to be read from a source: bytes, and characters that have no code. -/
def pending : Source → List (Option UInt8)
  | empty => []
  | buffer b => b.unread.map some
  | stream rest => rest.map some
  | text rest => rest.map Text.byteOf?

theorem pending_of_unread? {s : Source} {bytes : List UInt8} (h : s.unread? = some bytes) :
    s.pending = bytes.map some := by
  obtain ⟨b, rfl, hb⟩ := exists_buffer h
  rw [pending, hb]

/-- A source in which nothing is pending is at its end, and stays there. -/
theorem read_of_pending_nil {s : Source} (h : s.pending = []) : s.read = (.ok none, s) := by
  cases s with
  | empty => rfl
  | buffer b =>
    have hb : b.unread = [] := List.map_eq_nil_iff.mp h
    exact read_of_unread?_nil (congrArg some hb)
  | stream rest =>
    obtain rfl := List.map_eq_nil_iff.mp h
    rfl
  | text rest =>
    obtain rfl := List.map_eq_nil_iff.mp h
    rfl

/-- **A read takes what is pending first**, be it a byte or a character without a code. -/
theorem read_of_pending_cons {s : Source} {x : Option UInt8} {rest : List (Option UInt8)}
    (h : s.pending = x :: rest) :
    ∃ t, s.read = (x.elim (.error .unencodable) fun byte => .ok (some byte), t) ∧
      t.pending = rest := by
  cases s with
  | empty => cases h
  | buffer b =>
    obtain ⟨byte, bytes, hb, rfl, rfl⟩ := List.map_eq_cons_iff.mp h
    obtain ⟨t, ht, hrest⟩ := read_of_unread?_cons (s := buffer b) (congrArg some hb)
    exact ⟨t, ht, pending_of_unread? hrest⟩
  | stream bytes =>
    obtain ⟨byte, bytes, rfl, rfl, rfl⟩ := List.map_eq_cons_iff.mp h
    exact ⟨stream bytes, rfl, rfl⟩
  | text chars =>
    obtain ⟨c, chars, rfl, rfl, rfl⟩ := List.map_eq_cons_iff.mp h
    refine ⟨text chars, ?_, rfl⟩
    rw [read]
    rcases Text.byteOf? c with _ | byte <;> rfl

/-- A source that gives nothing has nothing left. -/
theorem pending_of_read {s t : Source} (h : s.read = (.ok none, t)) : t.pending = [] := by
  rcases hs : s.pending with _ | ⟨x, rest⟩
  · rw [read_of_pending_nil hs] at h
    cases h
    exact hs
  · obtain ⟨u, hu, -⟩ := read_of_pending_cons hs
    rw [hu] at h
    rcases x with _ | byte <;> cases h

section Feed

variable {b : Buffer} {data : Data}

theorem feed_buffer {bytes : List UInt8} (h : data.toBytes = .ok bytes) :
    (buffer b).feed data = (none, buffer (b.feed bytes)) := by
  rw [feed, h]

theorem feed_buffer_error {failure : Failure} (h : data.toBytes = .error failure) :
    (buffer b).feed data = (some failure, buffer b) := by
  rw [feed, h]

/-- Data that a source does not take leaves it as it was. -/
theorem feed_of_refused {s : Source} {f : Failure} (h : (s.feed data).1 = some f) :
    (s.feed data).2 = s := by
  cases s with
  | empty | stream | text => rfl
  | buffer b =>
    rcases hdata : data.toBytes with g | bytes
    · rw [feed_buffer_error hdata]
    · rw [feed_buffer hdata] at h
      cases h

end Feed

end Source

namespace Sink

/-- A sink that cannot be emptied is left as it was. -/
theorem clear?_of_refused {s : Sink} {f : Failure} (h : s.clear?.1 = some f) : s.clear?.2 = s := by
  cases s with
  | buffer => cases h
  | discard | memory | stream => rfl

@[simp] theorem write_nil (s : Sink) : s.write [] = s := by
  cases s <;> simp [write]

/-- **Output can be written in pieces.** -/
theorem write_append (s : Sink) (a b : List UInt8) : s.write (a ++ b) = (s.write a).write b := by
  have h : ∀ bytes : Array UInt8, bytes ++ (a ++ b) = bytes ++ a ++ b := by
    intro bytes
    apply Array.ext'
    simp
  cases s <;> simp [write, h]

end Sink

end Brainfuck
