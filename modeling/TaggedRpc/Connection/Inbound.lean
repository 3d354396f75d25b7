import TaggedRpc.Frame

/-!
# Incoming bytes

What arrives on a socket is cut into frames. A *stream* may bring a frame in
pieces, or several at once, so the bytes after the last complete frame are kept
until more arrive. A *datagram* holds whole frames, and what is left of it is
dropped. A header that declares an impossible length ends the socket; the frames
in front of it count.

* `Inbound.cut`: the complete frames at the front of a buffer, and the rest;
* `Inbound.feed`: what one read brings.
-/

namespace TaggedRpc

/-- A complete frame holds its header and lies within the buffer. -/
theorem Frame.bounds_of_parse {buffer : Bytes} {maxLength n : Nat}
    (h : Frame.parse buffer maxLength = .complete n) :
    Frame.headerSize ≤ n ∧ n ≤ buffer.length := by
  unfold Frame.parse at h
  simp only at h
  split at h
  · cases h
  · split at h
    · cases h
    · split at h
      · cases h
      · cases h
        rename_i hlong hfull
        simp only [List.length_take] at hfull
        omega

namespace Inbound

/-- The complete frames at the front of a buffer; and what follows them, unless it
    starts with an impossible header, which then is told by the length that it
    declares. -/
def cut (maxLength : Nat) (buffer : Bytes) : List Bytes × Except Nat Bytes :=
  match _h : Frame.parse buffer maxLength with
  | .incomplete => ([], .ok buffer)
  | .invalid declared => ([], .error declared)
  | .complete n =>
    let (frames, rest) := cut maxLength (buffer.drop n)
    (buffer.take n :: frames, rest)
termination_by buffer.length
decreasing_by
  have := Frame.bounds_of_parse ‹_›
  simp only [List.length_drop, Frame.headerSize] at this ⊢
  omega

/-- What one read brings after the bytes that were kept: the frames, and the bytes
    to keep. -/
def feed (maxLength : Nat) (isDatagram : Bool) (kept chunk : Bytes) :
    List Bytes × Except Nat Bytes :=
  let (frames, rest) := cut maxLength (kept ++ chunk)
  (frames, if isDatagram then rest.map fun _ => [] else rest)

/-- What a sequence of reads brings. Nothing is read after an impossible header. -/
def feedAll (maxLength : Nat) (isDatagram : Bool) (kept : Bytes) :
    (chunks : List Bytes) → List Bytes × Except Nat Bytes
  | [] => ([], .ok kept)
  | chunk :: chunks =>
    match feed maxLength isDatagram kept chunk with
    | (frames, .ok kept) =>
      let (more, rest) := feedAll maxLength isDatagram kept chunks
      (frames ++ more, rest)
    | (frames, .error declared) => (frames, .error declared)

end Inbound

end TaggedRpc
