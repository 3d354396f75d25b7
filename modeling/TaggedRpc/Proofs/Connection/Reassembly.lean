import TaggedRpc.Connection.Basic

/-!
# Frames from a stream

What a stream means does not depend on how it arrives. Its bytes, all of them,
are *parsed* into frames from the front (`Frame.Parsed`): a frame is four bytes
that declare its length and then as many bytes as that, and what follows is the
beginning of a frame or a header that declares an impossible length. However the
same bytes are cut into reads, the loop that reads them hands exactly these frames
to its handler.

* `Frame.parsed_iff_cut`: cutting a buffer finds its parse, which is unique;
* `Inbound.cut_append`: what is found in a buffer stays when more bytes come;
* `Inbound.feedAll_eq_cut`: so reads one by one bring what they bring at once;
* `Connection.receiveAll_publish`: what the loop hands over, and whether it keeps
  the socket.
-/

namespace TaggedRpc

namespace Frame

variable {maxLength n declared : Nat} {buffer more frame tail : Bytes}

/-- The length that the first four bytes declare. -/
def declaredLength (bs : Bytes) : Nat := Bytes.toNat (bs.take headerSize)

/-- The parse of a byte stream: its complete frames, and the tail that follows
    them, or the length that an impossible header declares there. -/
inductive Parsed (maxLength : Nat) : Bytes → List Bytes → Except Nat Bytes → Prop
  /-- The tail is shorter than a header. -/
  | short {tail : Bytes} : tail.length < headerSize → Parsed maxLength tail [] (.ok tail)
  /-- The tail has a header, and fewer bytes than that declares. -/
  | begun {tail : Bytes} : headerSize ≤ tail.length → headerSize ≤ declaredLength tail →
    declaredLength tail ≤ maxLength → tail.length < declaredLength tail →
      Parsed maxLength tail [] (.ok tail)
  /-- The header declares too few bytes or too many. -/
  | impossible {tail : Bytes} : headerSize ≤ tail.length →
    declaredLength tail < headerSize ∨ maxLength < declaredLength tail →
      Parsed maxLength tail [] (.error (declaredLength tail))
  /-- A frame is as long as it declares. -/
  | frame {frame more : Bytes} {frames : List Bytes} {rest : Except Nat Bytes} :
    headerSize ≤ frame.length → declaredLength frame = frame.length → frame.length ≤ maxLength →
      Parsed maxLength more frames rest → Parsed maxLength (frame ++ more) (frame :: frames) rest

theorem declaredLength_append (h : headerSize ≤ buffer.length) :
    declaredLength (buffer ++ more) = declaredLength buffer := by
  rw [declaredLength, List.take_append_of_le_length h, declaredLength]

/-! ## Judging the front of a buffer -/

theorem parse_eq (buffer : Bytes) (maxLength : Nat) :
    parse buffer maxLength =
      if buffer.length < headerSize then .incomplete
      else if declaredLength buffer < headerSize ∨ maxLength < declaredLength buffer then
        .invalid (declaredLength buffer)
      else if buffer.length < declaredLength buffer then .incomplete
      else .complete (declaredLength buffer) := by
  have hmin : ∀ k, (buffer.take k).length < k ↔ buffer.length < k := by
    intro k
    rw [List.length_take]
    omega
  simp only [parse, hmin]
  rfl

theorem parse_eq_complete : parse buffer maxLength = .complete n ↔
    headerSize ≤ buffer.length ∧ declaredLength buffer = n ∧ headerSize ≤ n ∧ n ≤ maxLength ∧
      n ≤ buffer.length := by
  rw [parse_eq]
  grind

theorem parse_eq_invalid : parse buffer maxLength = .invalid declared ↔
    headerSize ≤ buffer.length ∧ declaredLength buffer = declared ∧
      (declared < headerSize ∨ maxLength < declared) := by
  rw [parse_eq]
  grind

theorem parse_eq_incomplete : parse buffer maxLength = .incomplete ↔
    buffer.length < headerSize ∨ headerSize ≤ declaredLength buffer ∧
      declaredLength buffer ≤ maxLength ∧ buffer.length < declaredLength buffer := by
  rw [parse_eq]
  grind

/-! ## Parses of a longer stream -/

variable {frames frames' : List Bytes} {rest : Except Nat Bytes}

/-- The tail of a parse holds no frame. -/
theorem Parsed.parsed_tail (h : Parsed maxLength buffer frames (.ok tail)) :
    Parsed maxLength tail [] (.ok tail) := by
  generalize hrest : Except.ok tail = rest at h
  induction h with
  | short hshort =>
    cases hrest
    exact .short hshort
  | begun hheader hleast hmost hlong =>
    cases hrest
    exact .begun hheader hleast hmost hlong
  | impossible => cases hrest
  | frame _ _ _ _ ih => exact ih hrest

/-- When more bytes come, the frames stay, and what follows them is the parse of
    the tail with these bytes. -/
theorem Parsed.append (h : Parsed maxLength buffer frames (.ok tail))
    (hmore : Parsed maxLength (tail ++ more) frames' rest) :
    Parsed maxLength (buffer ++ more) (frames ++ frames') rest := by
  generalize hrest : Except.ok tail = outcome at h
  induction h with
  | short | begun =>
    cases hrest
    exact hmore
  | impossible => cases hrest
  | frame hheader hdeclared hmost _ ih =>
    rw [List.append_assoc, List.cons_append]
    exact .frame hheader hdeclared hmost (ih hrest)

/-- No byte that comes after an impossible header matters. -/
theorem Parsed.append_of_error (h : Parsed maxLength buffer frames (.error declared)) :
    Parsed maxLength (buffer ++ more) frames (.error declared) := by
  generalize hrest : Except.error declared = outcome at h
  induction h with
  | short | begun => cases hrest
  | @impossible buffer hheader hdeclared =>
    cases hrest
    have hsame : declaredLength (buffer ++ more) = declaredLength buffer :=
      declaredLength_append hheader
    rw [← hsame] at hdeclared ⊢
    exact .impossible (by rw [List.length_append]; omega) hdeclared
  | frame hheader hdeclared hmost _ ih =>
    rw [List.append_assoc]
    exact .frame hheader hdeclared hmost (ih hrest)

end Frame

namespace Inbound

open TaggedRpc.Frame

variable {maxLength n declared : Nat} {buffer more kept : Bytes}

/-! ## Cutting finds the parse -/

theorem cut_of_incomplete (h : parse buffer maxLength = .incomplete) :
    cut maxLength buffer = ([], .ok buffer) := by
  rw [cut]
  split <;> simp_all

theorem cut_of_invalid (h : parse buffer maxLength = .invalid declared) :
    cut maxLength buffer = ([], .error declared) := by
  rw [cut]
  split <;> simp_all

theorem cut_of_complete (h : parse buffer maxLength = .complete n) :
    cut maxLength buffer =
      (buffer.take n :: (cut maxLength (buffer.drop n)).1, (cut maxLength (buffer.drop n)).2) := by
  rw [cut]
  split <;> simp_all

/-- What is cut from a buffer is a parse of it. -/
theorem parsed_cut (maxLength : Nat) (buffer : Bytes) :
    Parsed maxLength buffer (cut maxLength buffer).1 (cut maxLength buffer).2 := by
  induction buffer using cut.induct maxLength with
  | case1 buffer h =>
    rw [cut_of_incomplete h]
    obtain hshort | ⟨hleast, hmost, hlong⟩ := parse_eq_incomplete.1 h
    · exact .short hshort
    by_cases hshort : buffer.length < headerSize
    · exact .short hshort
    · exact .begun (Nat.le_of_not_lt hshort) hleast hmost hlong
  | case2 buffer declared h =>
    rw [cut_of_invalid h]
    obtain ⟨hheader, rfl, himpossible⟩ := parse_eq_invalid.1 h
    exact .impossible hheader himpossible
  | case3 buffer n h _ _ _ ih =>
    rw [cut_of_complete h]
    obtain ⟨hheader, hdeclared, hleast, hmost, hfull⟩ := parse_eq_complete.1 h
    have hlength : (buffer.take n).length = n := List.length_take_of_le hfull
    have hsame : declaredLength (buffer.take n) = n := by
      rw [← declaredLength_append (hlength.symm ▸ hleast), List.take_append_drop, hdeclared]
    have hframe : Parsed maxLength (buffer.take n ++ buffer.drop n) _ _ :=
      .frame (hlength.symm ▸ hleast) (hsame.trans hlength.symm) (hlength.symm ▸ hmost) ih
    rwa [List.take_append_drop] at hframe

/-- A stream has one parse, the one that cutting finds. -/
theorem parsed_iff_cut {frames : List Bytes} {rest : Except Nat Bytes} :
    Parsed maxLength buffer frames rest ↔ cut maxLength buffer = (frames, rest) := by
  refine ⟨fun h => ?_, fun h => ?_⟩
  · induction h with
    | short hshort => exact cut_of_incomplete (parse_eq_incomplete.2 (.inl hshort))
    | begun _ hleast hmost hlong =>
      exact cut_of_incomplete (parse_eq_incomplete.2 (.inr ⟨hleast, hmost, hlong⟩))
    | impossible hheader himpossible =>
      exact cut_of_invalid (parse_eq_invalid.2 ⟨hheader, rfl, himpossible⟩)
    | @frame frame more _ _ hheader hdeclared hmost _ ih =>
      have hlonger : frame.length ≤ (frame ++ more).length := List.length_append ▸ Nat.le_add_right _ _
      have hparse : parse (frame ++ more) maxLength = .complete frame.length :=
        parse_eq_complete.2 ⟨Nat.le_trans hheader hlonger,
          (declaredLength_append hheader).trans hdeclared, hheader, hmost, hlonger⟩
      rw [cut_of_complete hparse, List.take_left, List.drop_left, ih]
  · have hparsed := parsed_cut maxLength buffer
    rwa [h] at hparsed

/-! ## Reads one by one -/

/-- Reads bring the frames of the parse of the bytes kept before and all those read. -/
theorem parsed_feedAll {chunks : List Bytes} (h : Parsed maxLength kept [] (.ok kept)) :
    Parsed maxLength (kept ++ chunks.flatten) (feedAll maxLength false kept chunks).1
      (feedAll maxLength false kept chunks).2 := by
  induction chunks generalizing kept with
  | nil => rwa [List.flatten_nil, List.append_nil]
  | cons chunk chunks ih =>
    -- What is kept after a read is the tail of a parse, which again holds no frame.
    have hcut := parsed_cut maxLength (kept ++ chunk)
    rw [feedAll, feed, List.flatten_cons, ← List.append_assoc]
    generalize cut maxLength (kept ++ chunk) = found at hcut ⊢
    obtain ⟨frames, _ | kept⟩ := found
    · exact hcut.append_of_error
    · exact hcut.append (ih hcut.parsed_tail)

end Inbound

namespace Connection

open TaggedRpc.Frame

variable {σ ε : Type} {handle : Bytes → σ → Except ε Unit × σ}

/-- What became of a connection after reads with an outcome. -/
def Settled (c c' : Connection) : Except Nat Bytes → Prop
  | .ok tail => c'.live = c.live ∧ c'.kept = tail
  | .error _ => c'.live = none

theorem dispatch_append (s : σ) (frames more : List Bytes) :
    dispatch handle s (frames ++ more) = dispatch handle (dispatch handle s frames) more :=
  List.foldl_append

/-- Nothing is read from a socket that has gone. -/
theorem receiveAll_of_gone {c : Connection} {s : σ} {reads : List (Bytes × Nat)}
    (h : c.isConnected = false) : c.receiveAll handle s reads = (c, s) := by
  cases reads with
  | nil => rfl
  | cons read reads => rw [receiveAll, h, if_neg Bool.false_ne_true]

/-- The loop hands over what the reads bring, and keeps the socket unless they bring
    an impossible header. -/
theorem receiveAll_eq_feedAll {c : Connection} {s : σ} {reads : List (Bytes × Nat)}
    (hlive : c.isConnected = true) (hstream : c.transport ≠ .udp) :
    let brought := Inbound.feedAll c.config.maxPackageLength.toNat false c.kept (reads.map Prod.fst)
    (c.receiveAll handle s reads).2 = dispatch handle s brought.1 ∧
      c.Settled (c.receiveAll handle s reads).1 brought.2 := by
  induction reads generalizing c s with
  | nil => exact ⟨rfl, rfl, rfl⟩
  | cons read reads ih =>
    obtain ⟨chunk, now⟩ := read
    have hudp : (c.transport == .udp) = false := beq_eq_false_iff_ne.2 hstream
    rw [receiveAll, if_pos hlive, receive, hudp, List.map_cons, Inbound.feedAll]
    generalize Inbound.feed c.config.maxPackageLength.toNat false c.kept chunk = found
    obtain ⟨frames, _ | kept⟩ := found
    · -- The socket has gone, so the other reads do not happen.
      dsimp only
      rw [receiveAll_of_gone rfl]
      exact ⟨rfl, rfl⟩
    · -- The other reads find a socket as live as before, and the new tail.
      obtain ⟨hstate, hsettled⟩ :=
        @ih { c with kept := kept, lastActive := now } (dispatch handle s frames) hlive hstream
      dsimp only
      rw [dispatch_append]
      exact ⟨hstate, hsettled⟩

/-- However the bytes that a fresh socket of a stream brings are cut into reads, the
    loop hands its handler the frames of their parse, each once and in order,
    whatever the handler says of them. It keeps the tail of the parse and the
    socket, unless the parse ends at an impossible header; then the socket goes. -/
theorem receiveAll_publish (handle : Bytes → σ → Except ε Unit × σ) (c : Connection) (s : σ)
    (opened : Nat) (reads : List (Bytes × Nat)) (hstream : c.transport ≠ .udp) :
    ∃ frames rest,
      (∀ frames' rest', Parsed c.config.maxPackageLength.toNat (reads.flatMap Prod.fst)
        frames' rest' ↔ frames' = frames ∧ rest' = rest) ∧
      ((c.publish opened).receiveAll handle s reads).2 = dispatch handle s frames ∧
      (c.publish opened).Settled ((c.publish opened).receiveAll handle s reads).1 rest := by
  have hparsed : Parsed c.config.maxPackageLength.toNat ([] ++ (reads.map Prod.fst).flatten) _ _ :=
    Inbound.parsed_feedAll (.short (by decide))
  rw [List.nil_append, ← List.flatMap_def, Inbound.parsed_iff_cut] at hparsed
  refine ⟨_, _, fun frames' rest' => ?_,
    receiveAll_eq_feedAll (c := c.publish opened) rfl hstream⟩
  rw [Inbound.parsed_iff_cut, hparsed, Prod.mk.injEq]
  exact and_congr eq_comm eq_comm

/-- A handler that remembers what it is handed, and fails on the first frame. -/
def refuseFirst (frame : Bytes) (seen : List Bytes) : Except Unit Unit × List Bytes :=
  (if seen.isEmpty then .error () else .ok (), seen ++ [frame])

/-- Three reads, cut inside headers, of two frames and an impossible header. -/
def scattered : List (Bytes × Nat) :=
  [([0, 0], 2), ([0, 5, 7, 0, 0, 0, 4, 0], 3), ([0, 0, 3, 9], 4)]

theorem receiveAll_publish_scattered :
    (((new default {} 0).publish 1).receiveAll refuseFirst [] scattered).2 =
        [[0, 0, 0, 5, 7], [0, 0, 0, 4]] ∧
      (((new default {} 0).publish 1).receiveAll refuseFirst [] scattered).1.live = none := by
  obtain ⟨frames, rest, hparse, hstate, hsettled⟩ :=
    receiveAll_publish refuseFirst (new default {} 0) [] 1 scattered (by decide)
  have hscattered : Parsed (new default {} 0).config.maxPackageLength.toNat
      ([0, 0, 0, 5, 7] ++ ([0, 0, 0, 4] ++ [0, 0, 0, 3, 9])) [[0, 0, 0, 5, 7], [0, 0, 0, 4]]
      (.error 3) :=
    .frame (by decide) (by decide) (by decide) (.frame (by decide) (by decide) (by decide)
      (.impossible (by decide) (by decide)))
  obtain ⟨rfl, rfl⟩ := (hparse _ _).1 hscattered
  exact ⟨hstate.trans (by rfl), hsettled⟩

end Connection

end TaggedRpc
