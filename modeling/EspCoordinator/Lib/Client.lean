import Mathlib.Data.List.Basic

-- Programs that send requests to a peer and go on by its answers
namespace EspCoordinator

inductive Client (Req Ans ε α : Type) where
  | done (result : α)
  | stop (error : ε)
  | ask (request : Req) (next : Ans → Client Req Ans ε α)

namespace Client

variable {Req Ans ε σ α β : Type}

def bind (c : Client Req Ans ε α) (f : α → Client Req Ans ε β) : Client Req Ans ε β :=
  match c with
  | done result => f result
  | stop error => stop error
  | ask request next => ask request fun answer => (next answer).bind f

instance monad_client : Monad (Client Req Ans ε) where
  pure := done
  bind := bind

-- A run against a peer that keeps a state
def run (serve : σ → Req → σ × Ans) (s : σ) : Client Req Ans ε α → σ × Except ε α
  | done result => (s, .ok result)
  | stop error => (s, .error error)
  | ask request next => (next (serve s request).2).run serve (serve s request).1

section Triple

variable {serve : σ → Req → σ × Ans} {pre : σ → Prop} {onDone : α → σ → Prop}
  {onStop : ε → σ → Prop}

-- What holds at the end of a run, for either end
def Ends (onDone : α → σ → Prop) (onStop : ε → σ → Prop) : σ × Except ε α → Prop
  | (s, .ok result) => onDone result s
  | (s, .error error) => onStop error s

def Triple (serve : σ → Req → σ × Ans) (pre : σ → Prop) (c : Client Req Ans ε α)
    (onDone : α → σ → Prop) (onStop : ε → σ → Prop) : Prop :=
  ∀ s, pre s → Ends onDone onStop (c.run serve s)

theorem Ends.mono {onDone' : α → σ → Prop} {onStop' : ε → σ → Prop}
    (hdone : ∀ result s, onDone result s → onDone' result s)
    (hstop : ∀ error s, onStop error s → onStop' error s) {final : σ × Except ε α}
    (h : Ends onDone onStop final) : Ends onDone' onStop' final := by
  obtain ⟨s, result | result⟩ := final
  · exact hstop _ _ h
  · exact hdone _ _ h

theorem Triple.weaken {pre' : σ → Prop} {onDone' : α → σ → Prop} {onStop' : ε → σ → Prop}
    {c : Client Req Ans ε α} (h : Triple serve pre c onDone onStop)
    (hpre : ∀ s, pre' s → pre s) (hdone : ∀ result s, onDone result s → onDone' result s)
    (hstop : ∀ error s, onStop error s → onStop' error s) :
    Triple serve pre' c onDone' onStop' :=
  fun s hs => (h s (hpre s hs)).mono hdone hstop

-- A fact that is no matter of the state
theorem Triple.extract {p : Prop} {c : Client Req Ans ε α}
    (h : p → Triple serve pre c onDone onStop) :
    Triple serve (fun s => pre s ∧ p) c onDone onStop :=
  fun s hs => h hs.2 s hs.1

theorem Triple.exists {ι : Type} {pre : ι → σ → Prop} {c : Client Req Ans ε α}
    (h : ∀ i, Triple serve (pre i) c onDone onStop) :
    Triple serve (fun s => ∃ i, pre i s) c onDone onStop := by
  rintro s ⟨i, hs⟩
  exact h i s hs

theorem Triple.result {P : σ → Except ε α → Prop} {c : Client Req Ans ε α}
    (h : Triple serve pre c (fun result s => P s (.ok result)) fun error s => P s (.error error))
    {s : σ} (hs : pre s) : P (c.run serve s).1 (c.run serve s).2 := by
  have hends := h s hs
  cases hrun : c.run serve s with
  | mk final ending =>
      rw [hrun] at hends
      cases ending with
      | error error => exact hends
      | ok result => exact hends

theorem Triple.done {result : α} (h : ∀ s, pre s → onDone result s) :
    Triple serve pre (.done result) onDone onStop := h

theorem Triple.stop {error : ε} (h : ∀ s, pre s → onStop error s) :
    Triple serve pre (.stop error) onDone onStop := h

theorem Triple.ask {request : Req} (mid : Ans → σ → Prop) {next : Ans → Client Req Ans ε α}
    (hserve : ∀ s, pre s → mid (serve s request).2 (serve s request).1)
    (hnext : ∀ answer, Triple serve (mid answer) (next answer) onDone onStop) :
    Triple serve pre (.ask request next) onDone onStop :=
  fun s hs => hnext _ _ (hserve s hs)

theorem Triple.bind {c : Client Req Ans ε β} {f : β → Client Req Ans ε α}
    {mid : β → σ → Prop} (hc : Triple serve pre c mid onStop)
    (hf : ∀ result, Triple serve (mid result) (f result) onDone onStop) :
    Triple serve pre (c >>= f) onDone onStop := by
  intro s hs
  have hrun := hc s hs
  clear hc hs
  induction c generalizing s with
  | done result => exact hf result s hrun
  | stop error => exact hrun
  | ask request next ih => exact ih _ _ hrun

-- `inv` goes by what is still to be folded.
theorem Triple.foldlM {f : α → β → Client Req Ans ε α} {inv : List β → α → σ → Prop}
    (hf : ∀ x rest a, Triple serve (inv (x :: rest) a) (f a x) (inv rest) onStop)
    (xs : List β) (a : α) : Triple serve (inv xs a) (xs.foldlM f a) (inv []) onStop := by
  induction xs generalizing a with
  | nil => exact .done fun _ h => h
  | cons x rest ih =>
      rw [List.foldlM_cons]
      exact (hf x rest a).bind ih

end Triple

-- What a program may send, what it may be answered, and how it may fail
structure Contract (Req Ans ε : Type) where
  allowed : Req → Prop
  legit : Req → Ans → Prop
  fails : ε → Prop

section Asks

variable {k : Contract Req Ans ε} {post : α → Prop}

-- As long as the answers are legitimate, only allowed requests are sent, and a
-- result is as `post` says.
def Asks (k : Contract Req Ans ε) (post : α → Prop) : Client Req Ans ε α → Prop
  | done result => post result
  | stop error => k.fails error
  | ask request next =>
      k.allowed request ∧ ∀ answer, k.legit request answer → (next answer).Asks k post

theorem Asks.mono {c : Client Req Ans ε α} {post' : α → Prop} (hc : c.Asks k post)
    (h : ∀ result, post result → post' result) : c.Asks k post' := by
  induction c with
  | done result => exact h result hc
  | stop error => exact hc
  | ask request next ih =>
      exact ⟨hc.1, fun answer hanswer => ih answer (hc.2 answer hanswer)⟩

theorem Asks.bind {c : Client Req Ans ε β} {f : β → Client Req Ans ε α} {mid : β → Prop}
    (hc : c.Asks k mid) (hf : ∀ result, mid result → (f result).Asks k post) :
    (c >>= f).Asks k post := by
  induction c with
  | done result => exact hf result hc
  | stop error => exact hc
  | ask request next ih =>
      exact ⟨hc.1, fun answer hanswer => ih answer (hc.2 answer hanswer)⟩

theorem Asks.foldlM {f : α → β → Client Req Ans ε α} {xs : List β}
    (hf : ∀ x ∈ xs, ∀ a, post a → (f a x).Asks k post) {a : α} (ha : post a) :
    (xs.foldlM f a).Asks k post := by
  induction xs generalizing a with
  | nil => exact ha
  | cons x rest ih =>
      rw [List.foldlM_cons]
      exact (hf x List.mem_cons_self a ha).bind fun result hresult =>
        ih (fun y hy => hf y (List.mem_cons_of_mem x hy)) hresult

-- A peer that answers allowed requests legitimately keeps its invariant.
theorem Asks.triple {serve : σ → Req → σ × Ans} {inv : σ → Prop}
    (hserve : ∀ s request, inv s → k.allowed request →
      inv (serve s request).1 ∧ k.legit request (serve s request).2)
    {c : Client Req Ans ε α} (hc : c.Asks k post) :
    Triple serve inv c (fun result s => inv s ∧ post result)
      (fun error s => inv s ∧ k.fails error) := by
  induction c with
  | done result => exact .done fun s hs => ⟨hs, hc⟩
  | stop error => exact .stop fun s hs => ⟨hs, hc⟩
  | ask request next ih =>
      refine .ask (fun answer s => inv s ∧ k.legit request answer)
        (fun s hs => hserve s request hs hc.1) fun answer => .extract fun hanswer => ?_
      exact ih answer (hc.2 answer hanswer)

variable {τ : Type}

-- A run in which an exchange can fail on the side of the program
def execute (exchange : τ → Req → τ × Except ε Ans) (t : τ) :
    Client Req Ans ε α → τ × Except ε α
  | done result => (t, .ok result)
  | stop error => (t, .error error)
  | ask request next =>
      match exchange t request with
      | (t, .ok answer) => (next answer).execute exchange t
      | (t, .error error) => (t, .error error)

-- When every allowed exchange is a call of `serve` on what `abs` sees of the
-- state, the program cannot tell the two apart.
theorem Asks.refines {exchange : τ → Req → τ × Except ε Ans} {serve : σ → Req → σ × Ans}
    {inv : τ → Prop} {abs : τ → σ}
    (hstep : ∀ t request, inv t → k.allowed request → ∃ t',
      exchange t request = (t', .ok (serve (abs t) request).2) ∧ inv t' ∧
        abs t' = (serve (abs t) request).1)
    (hlegit : ∀ t request, inv t → k.allowed request → k.legit request (serve (abs t) request).2)
    {c : Client Req Ans ε α} (hc : c.Asks k post) {t : τ} (ht : inv t) :
    ∃ t', c.execute exchange t = (t', (c.run serve (abs t)).2) ∧ inv t' ∧
      abs t' = (c.run serve (abs t)).1 := by
  induction c generalizing t with
  | done result => exact ⟨t, rfl, ht, rfl⟩
  | stop error => exact ⟨t, rfl, ht, rfl⟩
  | ask request next ih =>
      obtain ⟨t', hexchange, ht', habs⟩ := hstep t request ht hc.1
      obtain ⟨last, hrest, hlast, hend⟩ := ih _ (hc.2 _ (hlegit t request ht hc.1)) ht'
      rw [habs] at hrest hend
      exact ⟨last, by simp only [execute, hexchange]; exact hrest, hlast, hend⟩

end Asks

end Client

end EspCoordinator
