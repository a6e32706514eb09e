import RdmaCpp.Lib.Monitor
import RdmaCpp.Lib.Scatter
import RdmaCpp.Lib.Stream
import RdmaCpp.Lib.Traced

/-!
# Reading all of it

`readAll` of `interface/TTransport.h` asks a transport for as much as it still needs, again and
again, until it has as much as its caller wants; a transport that gives out nothing ends it
with `END_OF_FILE`. The numbers are 32-bit ones, and `have` is the sum of what the transport
has *said* that it put into the buffer.

So for **any** transport what `readAll` asks for is determined by the answers that it has got
(`Interface.asks`): it always asks for all that is left of the buffer behind what it has been
told, it ends when it has been told of enough, and it ends otherwise only when the transport
has just said that there is nothing, or has just broken off (`Interface.readAll_ranges`).

Where the transport keeps its word, that is all of the matter: `readAll` takes the next `len`
bytes of the stream, whichever way the transport cuts it up, and what it leaves in the buffer
and in the stream when it fails is as determined as that (`Interface.readAll_serves`). So to
read one part after another is to read both at once (`Interface.readAll_add`), and two
transports over the same stream cannot be told apart by it (`Interface.readAll_alike`), as long
as no transport breaks off on the way.
-/

open Scatter (write write_nil write_append)

namespace Interface

/-- What ends `readAll` without a result. -/
inductive Thrown (ε : Type)
  /-- `TTransportException::END_OF_FILE`, “No more data to read.” -/
  | endOfFile
  /-- An exception of the transport. -/
  | raised (e : ε)
  /-- The loop was granted no more turns. -/
  | outOfTurns

/-- An action: the transport is asked to fill so many bytes from an address on, and answers. -/
inductive Act (ε : Type)
  | read (addr len : ℕ) (out : Except ε ℕ)

/-- The transport and the memory of the program. -/
structure Mem (τ : Type) where
  /-- The transport. -/
  trans : τ
  /-- The bytes at each address. -/
  mem : ℕ → UInt8

/-- Code that reads from a transport. -/
abbrev ReadM (τ ε : Type) : Type → Type := Traced (Mem τ) (Act ε) (Thrown ε)

variable {τ ε : Type}

/-- The sum of two 32-bit numbers. -/
def addUInt32 (a b : ℕ) : ℕ := (a + b) % 2 ^ 32

/-- `trans.read(buf, len)`. -/
def callRead (read : Reader τ UInt8 ε) (addr len : ℕ) : ReadM τ ε ℕ := fun s =>
  ⟨match (read s.trans len).out with
    | .ok get => .ok get
    | .error e => .error (.raised e),
    ⟨(read s.trans len).next, write s.mem addr (read s.trans len).bytes⟩,
    [.read addr len (read s.trans len).out]⟩

/-- The loop of `readAll`, with `turns` turns granted, from the moment when it has `got`
bytes. -/
def readAllFrom (read : Reader τ UInt8 ε) (buf len : ℕ) : ℕ → ℕ → ReadM τ ε ℕ
  | 0, got => if got < len then Traced.stop .outOfTurns else return got
  | turns + 1, got =>
    if got < len then do
      let get ← callRead read (buf + got) (len - got)
      if get ≤ 0 then Traced.stop .endOfFile
      else readAllFrom read buf len turns (addUInt32 got get)
    else return got

/-- `readAll`, with `turns` turns granted to its loop. -/
def readAllIn (turns : ℕ) (read : Reader τ UInt8 ε) (buf len : ℕ) : ReadM τ ε ℕ :=
  readAllFrom read buf len turns 0

/-- **`readAll`**: a transport that keeps its word makes it turn at most as often as there are
bytes to read. -/
def readAll (read : Reader τ UInt8 ε) (buf len : ℕ) : ReadM τ ε ℕ := readAllIn len read buf len

variable {read : Reader τ UInt8 ε} {stream : τ → List UInt8} {buf len got turns : ℕ} {s : Mem τ}

/-! ### What it asks for -/

/-- The transport is asked to fill one range. -/
theorem post_callRead {addr n : ℕ} {Q : ℕ → Mem τ → List (Act ε) → Prop}
    {E : Thrown ε → Mem τ → List (Act ε) → Prop} :
    Traced.Post (callRead read addr n) s Q E ↔
      (∀ get, (read s.trans n).out = .ok get →
        Q get ⟨(read s.trans n).next, write s.mem addr (read s.trans n).bytes⟩
          [.read addr n (.ok get)]) ∧
      ∀ e, (read s.trans n).out = .error e →
        E (.raised e) ⟨(read s.trans n).next, write s.mem addr (read s.trans n).bytes⟩
          [.read addr n (.error e)] := by
  rcases hout : (read s.trans n).out with e | get
  · have hrun : callRead read addr n s = ⟨.error (.raised e),
        ⟨(read s.trans n).next, write s.mem addr (read s.trans n).bytes⟩,
        [.read addr n (.error e)]⟩ := by
      rw [callRead, hout]
    rw [Traced.post_of_stop hrun]
    constructor
    · intro h
      refine ⟨fun _ hc => (by cases hc), fun e' he => ?_⟩
      cases he
      exact h
    · rintro ⟨-, h⟩
      exact h e rfl
  · have hrun : callRead read addr n s = ⟨.ok get,
        ⟨(read s.trans n).next, write s.mem addr (read s.trans n).bytes⟩,
        [.read addr n (.ok get)]⟩ := by
      rw [callRead, hout]
    rw [Traced.post_of_run hrun]
    constructor
    · intro h
      refine ⟨fun get' hget => ?_, fun _ hc => (by cases hc)⟩
      cases hget
      exact h
    · rintro ⟨h, -⟩
      exact h get rfl

/-- **The dialogue with a transport** that is to fill a buffer: the monitor remembers the
transport, and how much it has said that it put into the buffer, and nothing more once it has
said that there is nothing, or has broken off. As long as that is less than is wanted, it may
be asked for all of the rest; and what it answers is what it does answer. -/
def asks (read : Reader τ UInt8 ε) (buf len : ℕ) : Monitor (τ × Option ℕ) (Act ε) where
  step
    | (tr, some got), .read _ n (.ok get) =>
      ((read tr n).next, if 0 < get then some (addUInt32 got get) else none)
    | (tr, _), .read _ n _ => ((read tr n).next, none)
  Ok
    | (tr, some got), .read addr n out =>
      got < len ∧ addr = buf + got ∧ n = len - got ∧ out = (read tr n).out
    | (_, none), _ => False

/-- The trace ends with this answer of the transport. -/
def LastAnswer (t : List (Act ε)) (out : Except ε ℕ) : Prop :=
  ∃ h addr n, t = h ++ [.read addr n out]

theorem LastAnswer.append {t : List (Act ε)} {out : Except ε ℕ} (h : LastAnswer t out)
    (t' : List (Act ε)) : LastAnswer (t' ++ t) out := by
  obtain ⟨t₀, addr, n, rfl⟩ := h
  exact ⟨t' ++ t₀, addr, n, by rw [List.append_assoc]⟩

/-- **How the dialogue ends** when `readAll` has no result: with the answer that nothing is
left, with the exception, or when the loop has turned as often as it may. -/
def Stopped (read : Reader τ UInt8 ε) (buf len turns : ℕ) (u : τ × Option ℕ) (e : Thrown ε)
    (trans : τ) (t : List (Act ε)) : Prop :=
  match e with
  | .endOfFile => (asks read buf len).Leads u t (trans, none) ∧ LastAnswer t (.ok 0)
  | .raised e => (asks read buf len).Leads u t (trans, none) ∧ LastAnswer t (.error e)
  | .outOfTurns =>
    ∃ got < len, (asks read buf len).Leads u t (trans, some got) ∧ t.length = turns

/-- One more question before the others. -/
theorem Stopped.cons {u v : τ × Option ℕ} {e : Thrown ε} {trans : τ} {a : Act ε}
    {t : List (Act ε)} (hone : (asks read buf len).Leads u [a] v)
    (h : Stopped read buf len turns v e trans t) :
    Stopped read buf len (turns + 1) u e trans ([a] ++ t) := by
  cases e with
  | endOfFile => exact ⟨hone.append h.1, h.2.append [a]⟩
  | raised e => exact ⟨hone.append h.1, h.2.append [a]⟩
  | outOfTurns =>
    obtain ⟨got, hgot, hleads, hlength⟩ := h
    exact ⟨got, hgot, hone.append hleads, congrArg (· + 1) hlength⟩

/-- The dialogue, from the moment when `got` bytes are there. The induction is on the turns
granted. -/
theorem post_readAllFrom_asks (read : Reader τ UInt8 ε) (buf len turns got : ℕ) (s : Mem τ) :
    Traced.Post (readAllFrom read buf len turns got) s
      (fun ret s' t =>
        (asks read buf len).Leads (s.trans, some got) t (s'.trans, some ret) ∧ len ≤ ret)
      (fun e s' t => Stopped read buf len turns (s.trans, some got) e s'.trans t) := by
  induction turns generalizing got s with
  | zero =>
    rw [readAllFrom, Traced.post_ite]
    exact ⟨fun hlt => ⟨got, hlt, Monitor.leads_nil _ _, rfl⟩,
      fun hge => ⟨Monitor.leads_nil _ _, Nat.le_of_not_lt hge⟩⟩
  | succ turns ih =>
    rw [readAllFrom, Traced.post_ite]
    refine ⟨fun hlt => ?_, fun hge => ⟨Monitor.leads_nil _ _, Nat.le_of_not_lt hge⟩⟩
    rw [Traced.post_bind, post_callRead]
    refine ⟨fun get hget => ?_, fun e he => ?_⟩
    · rw [Traced.post_ite]
      have hok : (asks read buf len).Ok (s.trans, some got)
          (.read (buf + got) (len - got) (.ok get)) := ⟨hlt, rfl, rfl, hget.symm⟩
      refine ⟨fun hzero => ?_, fun hpos => ?_⟩
      · obtain rfl : get = 0 := Nat.le_zero.mp hzero
        exact ⟨⟨⟨hok, trivial⟩, rfl⟩, [], _, _, rfl⟩
      · have hone : (asks read buf len).Leads (s.trans, some got)
            [.read (buf + got) (len - got) (.ok get)]
            ((read s.trans (len - got)).next, some (addUInt32 got get)) := by
          refine ⟨⟨hok, trivial⟩, ?_⟩
          exact congrArg (Prod.mk _) (if_pos (Nat.lt_of_not_le hpos))
        refine (ih _ _).mono ?_ fun e s' t h => h.cons hone
        rintro ret s' t ⟨hleads, hle⟩
        exact ⟨hone.append hleads, hle⟩
    · exact ⟨⟨⟨⟨hlt, rfl, rfl, he.symm⟩, trivial⟩, rfl⟩, [], _, _, rfl⟩

/-- **What `readAll` asks for**, whatever the transport answers, and however often the loop may
turn: each time all that is left of the buffer behind what the transport has said that it put
there, and never nothing. It returns what the transport has said, all of it together, once that
is as much as was wanted; it ends with `END_OF_FILE` only when the transport has just said that
there is nothing, and with an exception only when the transport has just broken off with it. -/
theorem readAll_ranges (turns : ℕ) (read : Reader τ UInt8 ε) (buf len : ℕ) (s : Mem τ) :
    Traced.Post (readAllIn turns read buf len) s
      (fun ret s' t =>
        (asks read buf len).Leads (s.trans, some 0) t (s'.trans, some ret) ∧ len ≤ ret)
      (fun e s' t => Stopped read buf len turns (s.trans, some 0) e s'.trans t) :=
  post_readAllFrom_asks read buf len turns 0 s

/-! ### What it reads -/

/-- **The next of the stream has been taken**: it is in memory, and the stream goes on behind
it. -/
structure Took (stream : τ → List UInt8) (addr k : ℕ) (s s' : Mem τ) : Prop where
  le : k ≤ (stream s.trans).length
  rest : stream s'.trans = (stream s.trans).drop k
  mem : s'.mem = write s.mem addr ((stream s.trans).take k)

variable {addr k k' : ℕ} {s' s'' : Mem τ}

theorem took_zero (s : Mem τ) : Took stream addr 0 s s :=
  ⟨Nat.zero_le _, rfl, by rw [List.take_zero, write_nil]⟩

/-- One part after another. -/
theorem Took.trans (h : Took stream addr k s s') (h' : Took stream (addr + k) k' s' s'') :
    Took stream addr (k + k') s s'' := by
  have hle : k' ≤ (stream s.trans).length - k := by
    have := h'.le
    rwa [h.rest, List.length_drop] at this
  have hle' := h.le
  refine ⟨by omega, ?_, ?_⟩
  · rw [h'.rest, h.rest, List.drop_drop]
  · have hlength : ((stream s.trans).take k).length = k := List.length_take_of_le h.le
    have hwrite := write_append s.mem addr ((stream s.trans).take k)
      (((stream s.trans).drop k).take k')
    rw [hlength, ← List.take_add] at hwrite
    rw [h'.mem, h.mem, h.rest, hwrite]

/-- **The transport has broken off** with an exception, and it was the last thing that it did. -/
def Raises (read : Reader τ UInt8 ε) (t : List (Act ε)) (e : Thrown ε) : Prop :=
  ∃ e' trans h addr n, (read trans n).out = .error e' ∧ e = .raised e' ∧
    t = h ++ [.read addr n (.error e')]

theorem Raises.append {e : Thrown ε} {t : List (Act ε)} (h : Raises read t e)
    (t' : List (Act ε)) : Raises read (t' ++ t) e := by
  obtain ⟨e', trans, t₀, addr, n, hout, he, rfl⟩ := h
  exact ⟨e', trans, t' ++ t₀, addr, n, hout, he, by rw [List.append_assoc]⟩

/-- What a single reading takes. -/
theorem took_callRead (hserves : read.Serves stream) (addr : ℕ) {n : ℕ}
    (hlength : (read s.trans n).bytes.length = k) : Took stream addr k s
      ⟨(read s.trans n).next, write s.mem addr (read s.trans n).bytes⟩ := by
  have hnext := hserves.next s.trans n
  subst hlength
  refine ⟨?_, ?_, ?_⟩
  · rw [hnext, List.length_append]
    exact Nat.le_add_right _ _
  · rw [hnext, List.drop_left]
  · rw [hnext, List.take_left]

theorem addUInt32_of_lt {a b : ℕ} (h : a + b < 2 ^ 32) : addUInt32 a b = a + b :=
  Nat.mod_eq_of_lt h

/-- The loop, from the moment when it has `got` bytes. The induction is on the turns granted,
of which there are as many as bytes to read. -/
theorem post_readAllFrom (hserves : read.Serves stream) (hlen : len < 2 ^ 32) (buf got : ℕ)
    (hgot : got ≤ len) (hturns : len - got ≤ turns) (s : Mem τ) :
    Traced.Post (readAllFrom read buf len turns got) s
      (fun ret s' _ => ret = len ∧ Took stream (buf + got) (len - got) s s')
      (fun e s' t => ∃ k < len - got, Took stream (buf + got) k s s' ∧
        (e = .endOfFile ∧ k = (stream s.trans).length ∨ Raises read t e)) := by
  induction turns generalizing got s with
  | zero =>
    have hdone : got = len := by omega
    subst hdone
    rw [readAllFrom, if_neg (Nat.lt_irrefl got), Traced.post_pure, Nat.sub_self]
    exact ⟨rfl, took_zero s⟩
  | succ turns ih =>
    rw [readAllFrom, Traced.post_ite]
    refine ⟨fun hlt => ?_, fun hge => ?_⟩
    swap
    · have hdone : got = len := by omega
      subst hdone
      rw [Traced.post_pure, Nat.sub_self]
      exact ⟨rfl, took_zero s⟩
    rw [Traced.post_bind, post_callRead]
    refine ⟨fun get hget => ?_, fun e hbreak => ?_⟩
    · obtain ⟨hlength, hle⟩ := hserves.count s.trans _ get hget
      have htook := took_callRead hserves (buf + got) hlength
      rw [Traced.post_ite]
      refine ⟨fun hzero => ?_, fun hpos => ?_⟩
      · -- the end of the stream
        have hzero' : get = 0 := Nat.le_zero.mp hzero
        subst hzero'
        refine ⟨0, Nat.sub_pos_of_lt hlt, htook, Or.inl ⟨rfl, ?_⟩⟩
        rw [hserves.ends s.trans _ (Nat.sub_pos_of_lt hlt) hget]
        rfl
      · have hsum : addUInt32 got get = got + get := addUInt32_of_lt (by omega)
        rw [hsum]
        refine (ih (got + get) (by omega) (by omega) _).mono ?_ ?_
        · rintro ret s' t ⟨rfl, hrest⟩
          rw [← Nat.add_assoc] at hrest
          have hall := htook.trans hrest
          rw [show get + (ret - (got + get)) = ret - got by omega] at hall
          exact ⟨rfl, hall⟩
        · rintro e s' t ⟨k, hk, hrest, hwhy⟩
          rw [← Nat.add_assoc] at hrest
          refine ⟨get + k, by omega, htook.trans hrest, hwhy.imp ?_ (Raises.append · _)⟩
          rintro ⟨he, hall⟩
          refine ⟨he, ?_⟩
          have hdrop := htook.rest
          have hle' := htook.le
          rw [hall, hdrop, List.length_drop]
          omega
    · refine ⟨0, Nat.sub_pos_of_lt hlt, ?_, Or.inr ⟨e, _, [], _, _, hbreak, rfl, rfl⟩⟩
      refine took_callRead hserves _ ?_
      rw [hserves.breaks s.trans _ e hbreak]
      rfl

/-- **`readAll` over a stream**: when it returns it has taken the next `len` bytes, and returns
that number; when it ends with `END_OF_FILE` it has taken all that there was, which is less;
and when the transport breaks off, which is then the last that it was asked for, what it has
taken is lost to nobody: it is in the buffer, and the stream goes on behind it. It always
ends. -/
theorem readAll_serves (hserves : read.Serves stream) (hlen : len < 2 ^ 32) (buf : ℕ)
    (s : Mem τ) : Traced.Post (readAll read buf len) s
      (fun ret s' _ => ret = len ∧ Took stream buf len s s')
      (fun e s' t => ∃ k < len, Took stream buf k s s' ∧
        (e = .endOfFile ∧ k = (stream s.trans).length ∨ Raises read t e)) :=
  post_readAllFrom hserves hlen buf 0 (Nat.zero_le len) (Nat.le_refl len) s

/-- Where the transport does not break off, **what `readAll` does is settled** by the stream. -/
theorem run_readAll (hserves : read.Serves stream) (hlen : len < 2 ^ 32) (buf : ℕ) (s : Mem τ)
    (hquiet : ∀ e, (readAll read buf len s).out ≠ .error (.raised e)) :
    (readAll read buf len s).out =
        (if len ≤ (stream s.trans).length then .ok len else .error .endOfFile) ∧
      Took stream buf (min len (stream s.trans).length) s (readAll read buf len s).state := by
  have hpost : Traced.Post (readAll read buf len) s _ _ :=
    post_readAllFrom hserves hlen buf 0 (Nat.zero_le len) (Nat.le_refl len) s
  rw [Nat.sub_zero, Nat.add_zero] at hpost
  rcases hrun : readAll read buf len s with ⟨e | ret, s', t⟩
  · obtain ⟨k, hk, htook, ⟨rfl, rfl⟩ | ⟨e', -, -, -, -, -, rfl, -⟩⟩ := hpost.of_error hrun
    · rw [if_neg (Nat.not_le.mpr hk), Nat.min_eq_right (Nat.le_of_lt hk)]
      exact ⟨rfl, htook⟩
    · rw [hrun] at hquiet
      exact absurd rfl (hquiet e')
  · obtain ⟨rfl, htook⟩ := hpost.of_ok hrun
    rw [if_pos htook.le, Nat.min_eq_left htook.le]
    exact ⟨rfl, htook⟩

/-! ### One part after another -/

/-- Two calls of `readAll`, the second for what comes behind the first in the buffer. -/
def readAllTwice (read : Reader τ UInt8 ε) (buf m n : ℕ) : ReadM τ ε ℕ := do
  let a ← readAll read buf m
  let b ← readAll read (buf + m) n
  return a + b

/-- **What cannot be told apart**: the same result, the same memory, and the same stream
behind. -/
structure Alike {τ' : Type} (stream : τ → List UInt8) (stream' : τ' → List UInt8)
    (r : Ran (Mem τ) (Act ε) (Thrown ε) ℕ) (r' : Ran (Mem τ') (Act ε) (Thrown ε) ℕ) : Prop where
  out : r.out = r'.out
  mem : r.state.mem = r'.state.mem
  rest : stream r.state.trans = stream' r'.state.trans

/-- The two calls, when the first one has returned. -/
theorem run_readAllTwice {m n ret : ℕ} {s s₁ : Mem τ} {t₁ : List (Act ε)}
    (h : readAll read buf m s = ⟨.ok ret, s₁, t₁⟩) :
    readAllTwice read buf m n s = ⟨(readAll read (buf + m) n s₁).out.map (ret + ·),
      (readAll read (buf + m) n s₁).state, t₁ ++ (readAll read (buf + m) n s₁).trace⟩ := by
  rw [readAllTwice, Traced.run_bind_ok h]
  rcases hrun : readAll read (buf + m) n s₁ with ⟨e | ret', s₂, t₂⟩
  · rw [Traced.run_bind_error hrun]
    rfl
  · rw [Traced.run_bind_ok hrun]
    simp only [Traced.run_pure, List.append_nil]
    rfl

/-- **Reading one part after another** is reading both at once, where the transport breaks off
in neither of the two. -/
theorem readAll_add (hserves : read.Serves stream) {m n : ℕ} (hlen : m + n < 2 ^ 32) (buf : ℕ)
    (s : Mem τ) (hparts : ∀ e, (readAllTwice read buf m n s).out ≠ .error (.raised e))
    (hwhole : ∀ e, (readAll read buf (m + n) s).out ≠ .error (.raised e)) :
    Alike stream stream (readAllTwice read buf m n s) (readAll read buf (m + n) s) := by
  obtain ⟨hout, htook⟩ := run_readAll hserves hlen buf s hwhole
  have hpart : ∀ e, (readAll read buf m s).out ≠ .error (.raised e) := by
    intro e he
    refine hparts e ?_
    rcases hrun₁ : readAll read buf m s with ⟨out₁, s₁, t₁⟩
    rw [hrun₁] at he
    cases he
    rw [readAllTwice, Traced.run_bind_error hrun₁]
  obtain ⟨hout₁, htook₁⟩ := run_readAll hserves (show m < 2 ^ 32 by omega) buf s hpart
  rcases hrun₁ : readAll read buf m s with ⟨out₁, s₁, t₁⟩
  rw [hrun₁] at hout₁ htook₁
  by_cases hm : m ≤ (stream s.trans).length
  · -- the first part is there
    rw [if_pos hm] at hout₁
    rw [Nat.min_eq_left hm] at htook₁
    cases hout₁
    have hrun := run_readAllTwice (n := n) hrun₁
    rw [hrun] at hparts ⊢
    obtain ⟨hout₂, htook₂⟩ := run_readAll hserves (show n < 2 ^ 32 by omega) (buf + m) s₁
      fun e he => hparts e (congrArg (Except.map (m + ·)) he)
    have hlength : (stream s₁.trans).length = (stream s.trans).length - m := by
      rw [htook₁.rest, List.length_drop]
    rw [hlength] at hout₂ htook₂
    have hall := htook₁.trans htook₂
    rw [show m + min n ((stream s.trans).length - m) = min (m + n) (stream s.trans).length by
      omega] at hall
    refine ⟨?_, hall.mem.trans htook.mem.symm, hall.rest.trans htook.rest.symm⟩
    rw [hout, hout₂]
    by_cases hn : n ≤ (stream s.trans).length - m
    · rw [if_pos hn, if_pos (by omega)]
      rfl
    · rw [if_neg hn, if_neg (by omega)]
      rfl
  · rw [if_neg hm] at hout₁
    rw [Nat.min_eq_right (Nat.le_of_not_le hm)] at htook₁
    rw [Nat.min_eq_right (by omega)] at htook
    cases hout₁
    rw [readAllTwice, Traced.run_bind_error hrun₁]
    refine ⟨?_, htook₁.mem.trans htook.mem.symm, htook₁.rest.trans htook.rest.symm⟩
    rw [hout, if_neg (by omega)]

/-- **How a transport cuts its stream up does not matter**: two transports with the same stream
behind them, whatever pieces either of them gives out, cannot be told apart by `readAll` when
neither of them breaks off. -/
theorem readAll_alike {τ' : Type} {read' : Reader τ' UInt8 ε} {stream' : τ' → List UInt8}
    (hserves : read.Serves stream) (hserves' : read'.Serves stream') (hlen : len < 2 ^ 32)
    (buf : ℕ) (s : Mem τ) (s' : Mem τ') (hmem : s.mem = s'.mem)
    (hstream : stream s.trans = stream' s'.trans)
    (hquiet : ∀ e, (readAll read buf len s).out ≠ .error (.raised e))
    (hquiet' : ∀ e, (readAll read' buf len s').out ≠ .error (.raised e)) :
    Alike stream stream' (readAll read buf len s) (readAll read' buf len s') := by
  obtain ⟨hout, htook⟩ := run_readAll hserves hlen buf s hquiet
  obtain ⟨hout', htook'⟩ := run_readAll hserves' hlen buf s' hquiet'
  refine ⟨?_, ?_, ?_⟩
  · rw [hout, hout', hstream]
  · rw [htook.mem, htook'.mem, hmem, hstream]
  · rw [htook.rest, htook'.rest, hstream]

/-! ### A transport that gives out one byte at a time -/

namespace Sample

/-- A transport that gives out at most one byte at a time. -/
def bytewise : Reader (List UInt8) UInt8 Unit := fun bytes len =>
  match bytes with
  | [] => ⟨.ok 0, [], []⟩
  | b :: bs => if 0 < len then ⟨.ok 1, [b], bs⟩ else ⟨.ok 0, [], b :: bs⟩

/-- A transport that gives out all that it is asked for. -/
def atOnce : Reader (List UInt8) UInt8 Unit := fun bytes len =>
  ⟨.ok (bytes.take len).length, bytes.take len, bytes.drop len⟩

theorem bytewise_serves : bytewise.Serves id := by
  constructor
  · rintro (_ | ⟨b, bs⟩) n
    · rfl
    · by_cases hn : 0 < n <;> simp [bytewise, hn]
  · rintro (_ | ⟨b, bs⟩) n k hk
    · cases hk
      exact ⟨rfl, Nat.zero_le n⟩
    · by_cases hn : 0 < n
      · simp only [bytewise, if_pos hn, Except.ok.injEq] at hk ⊢
        subst hk
        exact ⟨rfl, hn⟩
      · simp only [bytewise, if_neg hn, Except.ok.injEq] at hk ⊢
        subst hk
        exact ⟨rfl, Nat.zero_le n⟩
  · rintro (_ | ⟨b, bs⟩) n hn hk
    · rfl
    · simp [bytewise, hn] at hk
  · rintro (_ | ⟨b, bs⟩) n e he
    · cases he
    · by_cases hn : 0 < n <;> simp [bytewise, hn] at he

theorem atOnce_serves : atOnce.Serves id where
  next s n := (List.take_append_drop n s).symm
  count s n k hk := by
    cases hk
    exact ⟨rfl, List.length_take_le n s⟩
  ends s n hn hk := by
    have hzero : (s.take n).length = 0 := Except.ok.inj hk
    rcases List.take_eq_nil_iff.mp (List.length_eq_zero_iff.mp hzero) with rfl | rfl
    · exact absurd hn (Nat.lt_irrefl 0)
    · rfl
  breaks s n e he := by cases he

/-- Three bytes, and memory with nothing in it. -/
def mem : Mem (List UInt8) := ⟨[1, 2, 3], fun _ => 0⟩

end Sample

theorem readAll_serves_sample : Traced.Post (readAll Sample.bytewise 8 5) Sample.mem
    (fun ret s' _ => ret = 5 ∧ Took id 8 5 Sample.mem s')
    (fun e s' t => ∃ k < 5, Took id 8 k Sample.mem s' ∧
      (e = .endOfFile ∧ k = [1, 2, 3].length ∨ Raises Sample.bytewise t e)) :=
  readAll_serves Sample.bytewise_serves (by decide) 8 Sample.mem

theorem readAll_add_sample : Alike id id (readAllTwice Sample.bytewise 8 1 2 Sample.mem)
    (readAll Sample.bytewise 8 (1 + 2) Sample.mem) :=
  readAll_add Sample.bytewise_serves (by decide) 8 Sample.mem (fun _ he => by cases he)
    fun _ he => by cases he

theorem readAll_alike_sample : Alike id id (readAll Sample.bytewise 8 2 Sample.mem)
    (readAll Sample.atOnce 8 2 Sample.mem) :=
  readAll_alike Sample.bytewise_serves Sample.atOnce_serves (by decide) 8 Sample.mem Sample.mem
    rfl rfl (fun _ he => by cases he) fun _ he => by cases he

end Interface
