import Mathlib.Data.List.Induction

namespace EspCoordinator

-- What one of several sources delivers at once.
structure Chunk (κ β : Type*) where
  source : κ
  data : List β
  nonempty : data ≠ []
deriving DecidableEq

namespace Chunk

variable {σ κ β γ : Type*} {f : σ → κ → List β → σ × List γ} {s : σ}

-- Put the chunks of all sources through `f`, in the order of their arrival.
def feed (f : σ → κ → List β → σ × List γ) (s : σ) : List (Chunk κ β) → σ × List γ
  | [] => (s, [])
  | chunk :: rest =>
      let next := f s chunk.source chunk.data
      let later := feed f next.1 rest
      (later.1, next.2 ++ later.2)

def single (element : κ × β) : Chunk κ β :=
  { source := element.1, data := [element.2], nonempty := List.cons_ne_nil _ _ }

@[simp] theorem source_single (element : κ × β) : (single element).source = element.1 := rfl

@[simp] theorem data_single (element : κ × β) : (single element).data = [element.2] := rfl

-- The elements with their sources, without the places where they were cut.
def elements (chunks : List (Chunk κ β)) : List (κ × β) :=
  chunks.flatMap fun chunk => chunk.data.map fun element => (chunk.source, element)

-- The two parts one after the other come to the same as both at once.
def Splits (f : σ → κ → List β → σ × List γ) (s : σ) (source : κ) (first second : List β) : Prop :=
  let next := f s source first
  let later := f next.1 source second
  f s source (first ++ second) = (later.1, next.2 ++ later.2)

-- Every chunk is taken in a state where `P` holds of it.
def Along (f : σ → κ → List β → σ × List γ) (P : σ → κ → List β → Prop) (s : σ) :
    List (Chunk κ β) → Prop
  | [] => True
  | chunk :: rest =>
      P s chunk.source chunk.data ∧ Along f P (f s chunk.source chunk.data).1 rest

theorem feed_append (first second : List (Chunk κ β)) :
    feed f s (first ++ second) =
      ((feed f (feed f s first).1 second).1,
        (feed f s first).2 ++ (feed f (feed f s first).1 second).2) := by
  induction first generalizing s with
  | nil => rfl
  | cons chunk rest ih => simp only [List.cons_append, feed, ih, List.append_assoc]

theorem feed_concat_fst (past : List (Chunk κ β)) (chunk : Chunk κ β) :
    (feed f s (past ++ [chunk])).1 = (f (feed f s past).1 chunk.source chunk.data).1 := by
  rw [feed_append]
  rfl

-- An invariant that may mention the chunks taken so far.
theorem feed_history (I : List (Chunk κ β) → σ → Prop) (hinit : I [] s)
    (hstep : ∀ past t chunk, I past t → I (past ++ [chunk]) (f t chunk.source chunk.data).1)
    (chunks : List (Chunk κ β)) : I chunks (feed f s chunks).1 := by
  induction chunks using List.reverseRecOn with
  | nil => exact hinit
  | append_singleton past chunk ih =>
      rw [feed_concat_fst]
      exact hstep past _ chunk ih

section Singles

-- `P` allows to split off the first element, and then holds of the rest.
variable {P : σ → κ → List β → Prop}
  (hsplit : ∀ s source element rest, rest ≠ [] → P s source (element :: rest) →
    Splits f s source [element] rest ∧ P (f s source [element]).1 source rest)

include hsplit

theorem feed_chunk {source : κ} {data : List β} (hne : data ≠ []) (h : P s source data) :
    feed f s (data.map fun element => single (source, element)) = f s source data := by
  induction data generalizing s with
  | nil => exact absurd rfl hne
  | cons element rest ih =>
      cases rest with
      | nil => simp [feed, single]
      | cons second more =>
          obtain ⟨hsplits, hnext⟩ := hsplit s source element _ (List.cons_ne_nil _ _) h
          rw [List.map_cons, feed, source_single, data_single, ih (List.cons_ne_nil _ _) hnext]
          exact hsplits.symm

-- The chunks come to the same as their elements one by one.
theorem feed_eq_elements (chunks : List (Chunk κ β)) (h : Along f P s chunks) :
    feed f s chunks = feed f s ((elements chunks).map single) := by
  induction chunks generalizing s with
  | nil => rfl
  | cons chunk rest ih =>
      obtain ⟨hchunk, hrest⟩ := h
      have hone := feed_chunk hsplit chunk.nonempty hchunk
      have hcons : (elements (chunk :: rest)).map single =
          chunk.data.map (fun element => single (chunk.source, element)) ++
            (elements rest).map single := by
        simp [elements, Function.comp_def]
      rw [hcons, feed_append, hone, ← ih hrest, feed]

-- So it does not matter where they were cut.
theorem feed_congr {chunks other : List (Chunk κ β)} (h : Along f P s chunks)
    (hother : Along f P s other) (hsame : elements chunks = elements other) :
    feed f s chunks = feed f s other := by
  rw [feed_eq_elements hsplit chunks h, feed_eq_elements hsplit other hother, hsame]

end Singles

end Chunk

end EspCoordinator
