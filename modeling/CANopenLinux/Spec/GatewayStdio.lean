import CANopenLinux.Spec.GatewaySession

/-!
# The command interface on standard input

With the gateway on standard input and a configured node-id, each read of a chunk of the
operator's input passes the chunk to `CO_GTWA_write`, after `"[0] "` when the chunk is a
whole command typed without a sequence number (`stdioInput_chunk`). Over every sequence of
reads, the bytes passed are the chunks in order, each within the space reported, and the
sequence goes only before a chunk that begins a line, ends it, and starts with a graphic
character other than `'['` and `'#'` (`stdioReads_out`).

The branch reads `buf[s - 1]` and `buf[0]` itself. Both are below `s` when `s > 0`
(`gtwReadBufIndices_lt`). At the end of the input `read` returns 0, and the branch reads
`buf[-1]` (`stdio_eof_reads_before_buf`).
-/

namespace CANopenLinux

/-- What the spec allows one chunk of `s` bytes to pass to `CO_GTWA_write`: the chunk, or
    `"[0] "` and the chunk when the chunk begins a line (`fresh`), ends in `'\n'`, and begins
    with a graphic character other than `'['` and `'#'`; in all at most `space` bytes. -/
def StdioChunk (fresh : Bool) (space : Nat) (bytes out : List UInt8) : Prop :=
  (out = bytes ∨ (out = stdioSequence ++ bytes ∧ fresh = true ∧ bytes.getLast? = some 0x0A ∧
      ∃ b, bytes.head? = some b ∧ isGraph b = true ∧ b ≠ 0x5B ∧ b ≠ 0x23)) ∧
    out.length ≤ space

/-- One read on standard input: the chunk as `StdioChunk` allows, and the next chunk begins a
    line exactly when this one ends in `'\n'`. -/
theorem stdioInput_chunk (fresh : Bool) {space : Nat} {bytes : List UInt8}
    (h : bytes.length ≤ space) :
    StdioChunk fresh space bytes (stdioInput fresh space bytes).1 ∧
      (stdioInput fresh space bytes).2 = decide (bytes.getLast? = some 0x0A) := by
  refine ⟨?_, rfl⟩
  unfold stdioInput
  dsimp only
  cases hb : bytes.head? with
  | none => exact ⟨.inl (List.nil_append _), by simpa using h⟩
  | some b =>
    dsimp only
    by_cases hpre : (b != 0x5B && stdioSequence.length ≤ space - bytes.length && isGraph b &&
        b != 0x23 && decide (bytes.getLast? = some 0x0A) && fresh) = true
    · rw [if_pos hpre]
      simp only [Bool.and_eq_true, bne_iff_ne, ne_eq, decide_eq_true_eq] at hpre
      obtain ⟨⟨⟨⟨⟨h₁, h₂⟩, h₃⟩, h₄⟩, h₅⟩, h₆⟩ := hpre
      refine ⟨.inr ⟨rfl, h₆, h₅, b, hb, h₃, h₁, h₄⟩, ?_⟩
      simp only [List.length_append]
      simp only [stdioSequence, List.length_cons, List.length_nil] at h₂ ⊢
      omega
    · rw [if_neg hpre]
      exact ⟨.inl (List.nil_append _), by simpa using h⟩

/-- A read of `bytes`, within `space`, on standard input with a configured node-id. -/
theorem gtwRead_stdio {g : EpollGtw} (k : GtwKernel) (hstdio : g.commandInterface = coCommandIfStdio)
    {space : Nat} {bytes : List UInt8} (hspace : 0 < space) (h : bytes.length ≤ space) :
    gtwRead g k ⟨none, true, some bytes, space, false⟩ =
      let r := stdioInput g.freshCommand space bytes
      ⟨{ g with freshCommand := r.2, socketTimeoutTmrUs := 0 }, k, false, r.1⟩ := by
  have hskip : ¬(false = true ∨ space = 0) := by simp only [Bool.false_eq_true, false_or]; omega
  simp only [gtwRead, if_neg hskip, List.take_of_length_le h, hstdio, ↓reduceIte]

/-- The spec over a sequence of reads `(space, bytes)` on standard input: each chunk passes
    what `StdioChunk` allows, and a chunk begins a line when the one before ends in `'\n'`. -/
inductive StdioOut : Bool → List (Nat × List UInt8) → List UInt8 → Prop
  | nil (fresh : Bool) : StdioOut fresh [] []
  | cons {fresh : Bool} {space : Nat} {bytes out rest : List UInt8}
      {chunks : List (Nat × List UInt8)} :
      StdioChunk fresh space bytes out →
      StdioOut (decide (bytes.getLast? = some 0x0A)) chunks rest →
      StdioOut fresh ((space, bytes) :: chunks) (out ++ rest)

/-- Reads on standard input with a configured node-id, one event of type B each: the
    gateway after them, and the bytes given to `CO_GTWA_write`, in order. -/
def stdioReads (g : EpollGtw) (k : GtwKernel) : List (Nat × List UInt8) → EpollGtw × List UInt8
  | [] => (g, [])
  | (space, bytes) :: chunks =>
    let r := gtwRead g k ⟨none, true, some bytes, space, false⟩
    let rs := stdioReads r.gtw r.kernel chunks
    (rs.1, r.gtwaIn ++ rs.2)

/-- Every sequence of reads on standard input, each of at most the space reported, passes
    what `StdioOut` allows. -/
theorem stdioReads_out {g : EpollGtw} (k : GtwKernel) (hstdio : g.commandInterface = coCommandIfStdio)
    (chunks : List (Nat × List UInt8)) (hs : ∀ c ∈ chunks, 0 < c.1 ∧ c.2.length ≤ c.1) :
    StdioOut g.freshCommand chunks (stdioReads g k chunks).2 := by
  induction chunks generalizing g with
  | nil => exact .nil _
  | cons c chunks ih =>
    obtain ⟨space, bytes⟩ := c
    obtain ⟨hspace, hlen⟩ := hs _ (List.mem_cons_self _ _)
    obtain ⟨hchunk, hfresh⟩ := stdioInput_chunk g.freshCommand hlen
    simp only [stdioReads, gtwRead_stdio k hstdio hspace hlen]
    refine .cons hchunk ?_
    rw [← hfresh]
    exact ih (g := { g with freshCommand := _, socketTimeoutTmrUs := 0 }) hstdio
      fun c hc => hs c (List.mem_cons_of_mem _ hc)

/-- The indices of `buf` the read event reads itself are below `s` when `read` returned
    `s > 0`. -/
theorem gtwReadBufIndices_lt (g : EpollGtw) {env : GtwEnv} {bytes : List UInt8}
    (hread : env.read = some bytes) (hs : 0 < (bytes.take env.space).length) :
    ∀ i ∈ gtwReadBufIndices g env, 0 ≤ i ∧ i < (bytes.take env.space).length := by
  intro i hi
  unfold gtwReadBufIndices at hi
  by_cases h₁ : env.nodeIdUnconfigured = true ∨ env.space = 0
  · rw [if_pos h₁] at hi
    cases hi
  rw [if_neg h₁, hread] at hi
  dsimp only at hi
  by_cases h₂ : g.commandInterface = coCommandIfStdio
  · rw [if_pos h₂] at hi
    simp only [stdioBufIndices, List.mem_cons, List.mem_singleton, List.not_mem_nil,
      or_false] at hi
    omega
  · rw [if_neg h₂] at hi
    cases hi

/-- The gateway on standard input as `main` sets it up, with a configured node-id. At the
    end of the input `read` returns 0, and the branch reads `buf[-1]` and `buf[0]`. -/
theorem stdio_eof_reads_before_buf :
    let g₀ : EpollGtw := ⟨coCommandIfStdio, 0, 0, -1, stdinFileno, false⟩
    let k₀ : GtwKernel := ⟨[stdinFileno], [stdinFileno], false⟩
    let env : GtwEnv := ⟨none, true, some [], 100, false⟩
    createGtw ⟨[], [], false⟩ coCommandIfStdio 0 ⟨none, true, true, true, true⟩ = .ok (g₀, k₀) ∧
      gtwReadBufIndices (initCANopenGtw g₀ false) env = [-1, 0] :=
  ⟨rfl, rfl⟩

end CANopenLinux
