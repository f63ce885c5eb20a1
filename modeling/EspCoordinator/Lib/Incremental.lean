import EspCoordinator.Lib.Scanner

namespace EspCoordinator.Scanner

variable {β ι : Type*} (S : Scanner β ι)

-- The items of a cut with the place in the stream where each of them ends.
-- `input` is the last part of the `received` elements of the stream.
def cutAt (received : Nat) (input : List β) : List (ι × Nat) × List β :=
  match _h : S.scan input with
  | .wait tail => ([], tail)
  | .item it rest =>
      ((it, received - rest.length) :: (cutAt received rest).1, (cutAt received rest).2)
termination_by input.length
decreasing_by all_goals exact S.shrinks _h

-- The stream arrives in chunks. What one cut leaves is in front of the next chunk.
def feed (received : Nat) (unread : List β) : List (List β) → List (ι × Nat) × List β
  | [] => ([], unread)
  | chunk :: rest =>
      let (items, tail) := cutAt S (received + chunk.length) (unread ++ chunk)
      let (more, tail) := feed (received + chunk.length) tail rest
      (items ++ more, tail)

-- Input that arrives later changes neither an item that has been found nor
-- what is found after a wait, although a wait may forget input.
structure Incremental : Prop where
  item : ∀ {input it rest}, S.scan input = .item it rest →
    ∀ more, S.scan (input ++ more) = .item it (rest ++ more)
  wait : ∀ {input tail}, S.scan input = .wait tail →
    ∀ more received, (S.cutAt received (input ++ more)).1 = (S.cutAt received (tail ++ more)).1

variable {S} {input tail rest : List β} {it : ι} {received : Nat}

theorem cutAt_wait (h : S.scan input = .wait tail) : S.cutAt received input = ([], tail) := by
  rw [cutAt]
  split <;> simp_all

theorem cutAt_item (h : S.scan input = .item it rest) :
    S.cutAt received input =
      ((it, received - rest.length) :: (S.cutAt received rest).1, (S.cutAt received rest).2) := by
  rw [cutAt]
  split <;> simp_all

theorem cutAt_eq_cut (received : Nat) (input : List β) :
    ((S.cutAt received input).1.map Prod.fst, (S.cutAt received input).2) = S.cut input := by
  induction input using S.cut_induction with
  | hwait input tail hs => rw [cutAt_wait hs, cut_wait hs]; rfl
  | hitem input it rest hs ih => rw [cutAt_item hs, cut_item hs, ← ih]; rfl

theorem map_fst_cutAt (received : Nat) (input : List β) :
    (S.cutAt received input).1.map Prod.fst = (S.cut input).1 :=
  congrArg Prod.fst (cutAt_eq_cut received input)

theorem cutAt_snd (received : Nat) (input : List β) :
    (S.cutAt received input).2 = (S.cut input).2 :=
  congrArg Prod.snd (cutAt_eq_cut received input)

-- The scanner looks at nothing in front of what `find` finds, and it waits
-- when nothing is found.
structure Finds (S : Scanner β ι) (find : List β → Option (List β)) : Prop where
  none : ∀ {input}, find input = none → ∃ tail, S.scan input = .wait tail
  some : ∀ {input p}, find input = some p →
    S.scan input = S.scan p ∨
      (∃ tail, S.scan input = .wait tail) ∧ ∃ tail, S.scan p = .wait tail

theorem Finds.cutAt_none {find : List β → Option (List β)} (hS : S.Finds find) (received : Nat)
    (h : find input = .none) : (S.cutAt received input).1 = [] := by
  obtain ⟨tail, hs⟩ := hS.none h
  rw [cutAt_wait hs]

theorem Finds.cutAt_some {find : List β → Option (List β)} (hS : S.Finds find) (received : Nat)
    {p : List β} (h : find input = .some p) :
    (S.cutAt received input).1 = (S.cutAt received p).1 := by
  rcases hS.some h with hs | ⟨⟨tail, hs⟩, tail', hs'⟩
  · cases hp : S.scan p with
    | wait tail => rw [cutAt_wait (hs.trans hp), cutAt_wait hp]
    | item it rest => rw [cutAt_item (hs.trans hp), cutAt_item hp]
  · rw [cutAt_wait hs, cutAt_wait hs']

theorem Finds.cutAt_congr {find : List β → Option (List β)} (hS : S.Finds find) (received : Nat)
    {other : List β} (h : find input = find other) :
    (S.cutAt received input).1 = (S.cutAt received other).1 := by
  cases hq : find other with
  | none => rw [hS.cutAt_none received hq, hS.cutAt_none received (h.trans hq)]
  | some q => rw [hS.cutAt_some received hq, hS.cutAt_some received (h.trans hq)]

-- Every item stands where the scan that found it stopped.
theorem cutAt_mem (hsuffix : ∀ {input it rest}, S.scan input = .item it rest → rest <:+ input)
    {stop : Nat} (h : (it, stop) ∈ (S.cutAt received input).1) :
    ∃ found rest, found <:+ input ∧ S.scan found = .item it rest ∧
      stop = received - rest.length := by
  induction input using S.cut_induction with
  | hwait input tail hs => simp [cutAt_wait hs] at h
  | hitem input next rest hs ih =>
      rw [cutAt_item hs] at h
      rcases List.mem_cons.mp h with heq | h
      · obtain ⟨rfl, rfl⟩ := Prod.mk.inj heq
        exact ⟨input, rest, List.suffix_refl _, hs, rfl⟩
      · obtain ⟨found, after, hfound, hscan, hstop⟩ := ih h
        exact ⟨found, after, hfound.trans (hsuffix hs), hscan, hstop⟩

namespace Incremental

variable (hS : S.Incremental)

include hS

-- What is cut now stays, and the rest is cut from what was left.
theorem cutAt_append (input more : List β) (received : Nat) :
    (S.cutAt (received + more.length) (input ++ more)).1 =
      (S.cutAt received input).1 ++
        (S.cutAt (received + more.length) ((S.cutAt received input).2 ++ more)).1 := by
  induction input using S.cut_induction with
  | hwait input tail hs =>
      rw [cutAt_wait hs, List.nil_append]
      exact hS.wait hs more _
  | hitem input it rest hs ih =>
      have hend : received + more.length - (rest ++ more).length = received - rest.length := by
        simp only [List.length_append]
        omega
      rw [cutAt_item hs, cutAt_item (hS.item hs more), ih, hend]
      rfl

-- Nothing is found in what a cut leaves.
theorem cut_tail (input : List β) : (S.cut (S.cut input).2).1 = [] := by
  induction input using S.cut_induction with
  | hwait input tail hs =>
      have hnone := hS.wait hs [] 0
      rw [List.append_nil, List.append_nil, cutAt_wait hs] at hnone
      rw [cut_wait hs, ← map_fst_cutAt 0, ← hnone]
      rfl
  | hitem input it rest hs ih => rw [cut_item hs]; exact ih

-- The chunks cut one after the other give the items of the whole stream.
theorem feed_eq (received : Nat) {unread : List β} (chunks : List (List β))
    (hunread : (S.cut unread).1 = []) :
    (S.feed received unread chunks).1 =
      (S.cutAt (received + chunks.flatten.length) (unread ++ chunks.flatten)).1 := by
  induction chunks generalizing received unread with
  | nil =>
      have hnone := map_fst_cutAt (S := S) (received + 0) unread
      rw [hunread, List.map_eq_nil_iff] at hnone
      simpa [feed] using hnone.symm
  | cons chunk rest ih =>
      have happ := hS.cutAt_append (unread ++ chunk) rest.flatten (received + chunk.length)
      have htail := hS.cut_tail (unread ++ chunk)
      rw [← cutAt_snd (received + chunk.length)] at htail
      rw [List.flatten_cons, List.length_append, ← Nat.add_assoc, ← List.append_assoc, happ,
        ← ih _ htail]
      rfl

end Incremental

end EspCoordinator.Scanner
