import Vakil.Proofs.L4Proofs

/-!
# Proofs: the stream that a transfer writes

`feedChunks` hands chunks to the data hook one after another, each with the metadata that the one
before it left. A transfer writes the pieces the hook made of the chunks it has read, in order, and
what ends it decides whether part of one more piece is written.
-/

namespace Vakil

open ForLoop

variable {σ : Type}

/-- The bytes a transfer has written. -/
def Transfer.output (t : Transfer σ) : Bytes := t.chunks.flatMap (·.output)

/-- The pieces that the data hook makes of the chunks, with the context and the hooks' state it leaves;
`none` if it fails. A chunk that is cleared gives an empty piece. -/
def feedChunks (hooks : TcpProxyHooks σ) (direction : FlowDirection) :
    List Bytes → TCPContext → σ → Option (List Bytes × TCPContext × σ)
  | [], ctx, s => some ([], ctx, s)
  | data :: chunks, ctx, s =>
    match hooks.tcpDataReceived (ctx.withChunk direction data) s with
    | (.error _, _, _) => none
    | (.ok (), left, s) =>
      (feedChunks hooks direction chunks left s).map fun (pieces, ctx, s) =>
        (left.chunk.getD [] :: pieces, ctx, s)

/-- What happens to a transfer in the state `ctx`, `s`, with the turns that are still to come: its
result, and what it writes besides whole pieces. -/
inductive TransferEnds (hooks : TcpProxyHooks σ) (direction : FlowDirection) (ctx : TCPContext)
    (s : σ) : List TransferIo → Option (Except AnyhowError Unit) → Bytes → Prop where
  | waiting : TransferEnds hooks direction ctx s [] none []
  | eof {io : TransferIo} {ios : List TransferIo} (hread : io.read = .ok []) :
      TransferEnds hooks direction ctx s (io :: ios) (some (.ok ())) []
  | readError {io : TransferIo} {ios : List TransferIo} {e : IoError} (hread : io.read = .error e) :
      TransferEnds hooks direction ctx s (io :: ios) (some (.error (.io e))) []
  | hookError {io : TransferIo} {ios : List TransferIo} {data : Bytes} {e : AnyhowError}
      {left : TCPContext} {s' : σ} (hread : io.read = .ok data) (hdata : data ≠ [])
      (hhook : hooks.tcpDataReceived (ctx.withChunk direction data) s = (.error e, left, s')) :
      TransferEnds hooks direction ctx s (io :: ios) (some (.error e)) []
  /-- A prefix of the piece is written. -/
  | writeError {io : TransferIo} {ios : List TransferIo} {data piece : Bytes} {left : TCPContext}
      {s' : σ} {n : Nat} {e : IoError} (hread : io.read = .ok data) (hdata : data ≠ [])
      (hhook : hooks.tcpDataReceived (ctx.withChunk direction data) s = (.ok (), left, s'))
      (hpiece : left.chunk = some piece) (hwrite : io.writeFails = some (n, e))
      (hn : n < piece.length) :
      TransferEnds hooks direction ctx s (io :: ios) (some (.error (.io e))) (piece.take n)

/-- The turns `ios` are chunks, read and written in full and fed to the hook, and then whatever ends
the transfer; the output is what became of them. -/
def StreamFidelity (hooks : TcpProxyHooks σ) (direction : FlowDirection) (ios : List TransferIo)
    (ctx : TCPContext) (s : σ) : Prop :=
  ∃ chunks pieces ctx' s' pre post tail, ios = pre ++ post ∧
    pre.map (·.read) = chunks.map Except.ok ∧ [] ∉ chunks ∧
    feedChunks hooks direction chunks ctx s = some (pieces, ctx', s') ∧
    TransferEnds hooks direction ctx' s' post
      (tcpTransfer hooks direction ios ⟨ctx, s, []⟩).result tail ∧
    (tcpTransfer hooks direction ios ⟨ctx, s, []⟩).state.output = pieces.flatten ++ tail

theorem writeAll_ok {fails : Option (Nat × IoError)} {data output : Bytes}
    (h : writeAll fails data = (.ok (), output)) : output = data := by
  unfold writeAll at h
  split at h
  · cases h
    rfl
  · split at h
    · cases h
      rfl
    · cases h

theorem writeAll_error {fails : Option (Nat × IoError)} {data output : Bytes} {e : IoError}
    (h : writeAll fails data = (.error e, output)) :
    ∃ n, fails = some (n, e) ∧ n < data.length ∧ output = data.take n := by
  unfold writeAll at h
  split at h
  · cases h
  · next n e' =>
    split at h
    · cases h
    · next hn =>
      cases h
      exact ⟨n, rfl, Nat.lt_of_not_le hn, rfl⟩

@[simp] theorem Transfer.record_output (t : Transfer σ) (r : ChunkRecord σ) :
    (t.record r).output = t.output ++ r.output := by
  simp [output]

/-- One turn of a transfer: it writes the whole piece that the hook made of a chunk, or the transfer
ends. -/
theorem transferRound_cases (hooks : TcpProxyHooks σ) (direction : FlowDirection) (io : TransferIo)
    (t : Transfer σ) :
    (∃ data left s t', io.read = .ok data ∧ data ≠ [] ∧
      hooks.tcpDataReceived (t.ctx.withChunk direction data) t.hooks = (.ok (), left, s) ∧
      transferRound hooks direction io t = .next t' ∧ t'.ctx = left ∧ t'.hooks = s ∧
      t'.output = t.output ++ left.chunk.getD []) ∨
    ∃ result t' tail, transferRound hooks direction io t = .stop result t' ∧
      (∀ ios, TransferEnds hooks direction t.ctx t.hooks (io :: ios) (some result) tail) ∧
      t'.output = t.output ++ tail := by
  unfold transferRound
  cases hread : io.read with
  | error e => exact .inr ⟨_, t, [], rfl, fun _ => .readError hread, by simp⟩
  | ok data =>
    dsimp only
    by_cases hdata : data = []
    · rw [if_pos hdata]
      exact .inr ⟨_, t, [], rfl, fun _ => .eof (by rw [hread, hdata]), by simp⟩
    · rw [if_neg hdata]
      cases hhook : hooks.tcpDataReceived (t.ctx.withChunk direction data) t.hooks with
      | mk outcome rest =>
      obtain ⟨left, s⟩ := rest
      cases outcome with
      | error e => exact .inr ⟨_, _, [], rfl, fun _ => .hookError hread hdata hhook, by simp⟩
      | ok u =>
        dsimp only
        cases hchunk : left.chunk with
        | none => exact .inl ⟨data, left, s, _, rfl, hdata, hhook, rfl, rfl, rfl, by simp [hchunk]⟩
        | some piece =>
          dsimp only
          cases hwrite : writeAll io.writeFails piece with
          | mk result output =>
          cases result with
          | ok u =>
            refine .inl ⟨data, left, s, _, rfl, hdata, hhook, rfl, rfl, rfl, ?_⟩
            simp [hchunk, writeAll_ok hwrite]
          | error e =>
            obtain ⟨n, hfails, hn, rfl⟩ := writeAll_error hwrite
            exact .inr ⟨_, _, piece.take n, rfl,
              fun _ => .writeError hread hdata hhook hchunk hfails hn, by simp⟩

/-- **The stream of a transfer**, from any state of it. -/
theorem tcpTransfer_stream (hooks : TcpProxyHooks σ) (direction : FlowDirection)
    (ios : List TransferIo) (t : Transfer σ) :
    ∃ chunks pieces ctx' s' pre post tail, ios = pre ++ post ∧
      pre.map (·.read) = chunks.map Except.ok ∧ [] ∉ chunks ∧
      feedChunks hooks direction chunks t.ctx t.hooks = some (pieces, ctx', s') ∧
      TransferEnds hooks direction ctx' s' post (tcpTransfer hooks direction ios t).result tail ∧
      (tcpTransfer hooks direction ios t).state.output = t.output ++ pieces.flatten ++ tail := by
  induction ios generalizing t with
  | nil => exact ⟨[], [], t.ctx, t.hooks, [], [], [], rfl, rfl, by simp, rfl, .waiting,
      by simp [tcpTransfer]⟩
  | cons io ios ih =>
    rcases transferRound_cases hooks direction io t with
      ⟨data, left, s, t₁, hread, hdata, hhook, hround, rfl, rfl, hout⟩ |
      ⟨result, t₁, tail, hround, hends, hout⟩
    · obtain ⟨chunks, pieces, ctx', s', pre, post, tail, rfl, hpre, hne, hfeed, hends, houtput⟩ :=
        ih t₁
      have hrun : tcpTransfer hooks direction (io :: (pre ++ post)) t =
          tcpTransfer hooks direction (pre ++ post) t₁ := forEach_cons_next hround
      rw [hrun]
      refine ⟨data :: chunks, t₁.ctx.chunk.getD [] :: pieces, ctx', s', io :: pre, post, tail, rfl, ?_,
        ?_, ?_, hends, ?_⟩
      · rw [List.map_cons, List.map_cons, hread, hpre]
      · simp [hne, Ne.symm hdata]
      · simp only [feedChunks, hhook, hfeed, Option.map_some]
      · rw [houtput, hout, List.flatten_cons]
        simp only [List.append_assoc]
    · have hrun : tcpTransfer hooks direction (io :: ios) t = .stop result t₁ :=
        forEach_cons_stop hround
      rw [hrun]
      exact ⟨[], [], t.ctx, t.hooks, [], io :: ios, tail, rfl, rfl, by simp, rfl, hends ios,
        by simpa using hout⟩

/-! ## Segmentation -/

/-- The data hook maps the bytes of every chunk by `f`, whatever else it does. -/
def ActsBytewise (hooks : TcpProxyHooks σ) (f : UInt8 → UInt8) : Prop :=
  ∀ ctx s data, ctx.chunk = some data → ∃ left s',
    hooks.tcpDataReceived ctx s = (.ok (), left, s') ∧ left.chunk = some (data.map f)

/-- What is read first in these turns, if anything, is the end of the stream or an error. -/
def EndOfReads (last : List TransferIo) : Prop :=
  ∀ io ios data, last = io :: ios → io.read = .ok data → data = []

/-- The turns that read the chunks, and then `last`. Their writes succeed. -/
def readTurns (chunks : List Bytes) (last : List TransferIo) : List TransferIo :=
  chunks.map (fun data => ⟨.ok data, none⟩) ++ last

/-- At the end of the reads nothing more is written. -/
theorem tcpTransfer_endOfReads {hooks : TcpProxyHooks σ} {direction : FlowDirection}
    {last : List TransferIo} (hlast : EndOfReads last) (t : Transfer σ) :
    (tcpTransfer hooks direction last t).state.output = t.output := by
  cases last with
  | nil => rfl
  | cons io ios =>
    rcases transferRound_cases hooks direction io t with
      ⟨data, left, s, t₁, hread, hdata, -⟩ | ⟨result, t₁, tail, hround, hends, hout⟩
    · exact absurd (hlast io ios data rfl hread) hdata
    · have hrun : tcpTransfer hooks direction (io :: ios) t = .stop result t₁ :=
        forEach_cons_stop hround
      rw [hrun, Step.state_stop, hout]
      cases hends [] with
      | eof | readError | hookError => rw [List.append_nil]
      | writeError hread hdata => exact absurd (hlast io ios _ rfl hread) hdata

/-- Behind hooks that act byte by byte, a transfer writes the mapped bytes of the stream. -/
theorem tcpTransfer_bytewise {hooks : TcpProxyHooks σ} {f : UInt8 → UInt8}
    (h : ActsBytewise hooks f) (direction : FlowDirection) {chunks : List Bytes} (hne : [] ∉ chunks)
    {last : List TransferIo} (hlast : EndOfReads last) (t : Transfer σ) :
    (tcpTransfer hooks direction (readTurns chunks last) t).state.output =
      t.output ++ chunks.flatten.map f := by
  induction chunks generalizing t with
  | nil =>
    rw [List.flatten_nil, List.map_nil, List.append_nil]
    exact tcpTransfer_endOfReads hlast t
  | cons data chunks ih =>
    rw [List.mem_cons, not_or] at hne
    obtain ⟨left, s, hhook, hleft⟩ := h (t.ctx.withChunk direction data) t.hooks data rfl
    rcases transferRound_cases hooks direction ⟨.ok data, none⟩ t with
      ⟨data', left', s', t₁, hread, -, hhook', hround, -, -, hout⟩ |
      ⟨result, t₁, tail, -, hends, -⟩
    · cases hread
      rw [hhook] at hhook'
      cases hhook'
      have hrun : tcpTransfer hooks direction (readTurns (data :: chunks) last) t =
          tcpTransfer hooks direction (readTurns chunks last) t₁ := forEach_cons_next hround
      rw [hrun, ih hne.2 t₁, hout, hleft, Option.getD_some, List.flatten_cons, List.map_append,
        List.append_assoc]
    · -- neither the read nor the hook nor the write ends the transfer
      cases hends [] with
      | eof hread => cases hread; exact absurd rfl hne.1
      | readError hread => cases hread
      | hookError hread _ hhook' => cases hread; rw [hhook] at hhook'; cases hhook'
      | writeError _ _ _ _ hwrite => cases hwrite

end Vakil
