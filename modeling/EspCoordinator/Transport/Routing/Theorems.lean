import EspCoordinator.Transport.Routing

namespace EspCoordinator.Transport.Routing

open Pump (Iface BUF_SIZE)

variable {s : State} {iface : Iface} {data sig first second : List UInt8}

@[simp] theorem setPending_setPending (before pending : Bool) :
    (s.setPending iface before).setPending iface pending = s.setPending iface pending := by
  simp [State.setPending]

@[simp] theorem take_setPending (pending : Bool) :
    (s.setPending iface pending).take iface = s.take iface := by
  simp [State.setPending, State.take]

theorem setPending_take (pending : Bool) :
    (s.take iface).setPending iface pending = s.take iface ↔ pending = false := by
  constructor
  · intro h
    simpa [State.setPending, State.take] using congrFun (congrArg State.pendingDe h) iface
  · rintro rfl
    simp [State.setPending, State.take]

theorem endsInDe_append (first : List UInt8) (h : second ≠ []) :
    endsInDe (first ++ second) = endsInDe second := by
  rw [endsInDe, endsInDe, List.getLast?_append_of_ne_nil _ h]

theorem signature_eq_some (h : signature data = some sig) :
    sig <:+ data ∧ ∃ rest, sig = 0xde :: 0xad :: rest := by
  induction data using signature.induct with
  | case1 first second rest hpair =>
      rw [signature, if_pos hpair] at h
      obtain ⟨rfl, rfl⟩ := hpair
      cases h
      exact ⟨List.suffix_refl _, rest, rfl⟩
  | case2 first second rest hpair ih =>
      rw [signature, if_neg hpair] at h
      obtain ⟨hsuffix, hsig⟩ := ih h
      exact ⟨hsuffix.trans (List.suffix_cons _ _), hsig⟩
  | case3 data hshort => simp [signature] at h

theorem signature_append_some (h : signature first = some sig) :
    signature (first ++ second) = some (sig ++ second) := by
  induction first using signature.induct with
  | case1 byte next rest hpair =>
      rw [signature, if_pos hpair] at h
      cases h
      simp only [List.cons_append, signature, if_pos hpair]
  | case2 byte next rest hpair ih =>
      rw [signature, if_neg hpair] at h
      rw [List.cons_append, List.cons_append, signature, if_neg hpair]
      exact ih h
  | case3 data hshort => simp [signature] at h

-- A pair can still be complete across the seam.
theorem signature_append_none (h : signature first = none) (second : List UInt8) :
    signature (first ++ second) =
      if endsInDe first ∧ second.head? = some 0xad then some (0xde :: second)
      else signature second := by
  induction first using signature.induct with
  | case1 byte next rest hpair => simp [signature, hpair] at h
  | case2 byte next rest hpair ih =>
      rw [signature, if_neg hpair] at h
      rw [List.cons_append, List.cons_append, signature, if_neg hpair,
        show endsInDe (byte :: next :: rest) = endsInDe (next :: rest) from
          endsInDe_append [byte] (List.cons_ne_nil _ _)]
      exact ih h
  | case3 data hshort =>
      match data, hshort with
      | [], _ => simp [endsInDe]
      | [byte], _ =>
          cases second with
          | nil => simp [signature]
          | cons next rest =>
              by_cases hpair : byte = 0xde ∧ next = 0xad
              · simp [signature, endsInDe, hpair]
              · have hcross : ¬(endsInDe [byte] = true ∧ (next :: rest).head? = some 0xad) := by
                  simpa [endsInDe] using hpair
                rw [if_neg hcross, List.cons_append, List.nil_append, signature, if_neg hpair]
      | byte :: next :: rest, hshort => exact absurd rfl (hshort byte next rest)

theorem forward_active (h : s.active = some iface) (data : List UInt8) :
    forward s iface data = (s.setPending iface (endsInDe data), data) := by
  simp [forward, rxQualifiedPump, h]

theorem forward_spans (h : s.active ≠ some iface) (hspans : spans s iface data = true) :
    forward s iface data = (s.take iface, 0xde :: data) := by
  simp [forward, rxQualifiedPump, h, hspans]

theorem forward_signature (h : s.active ≠ some iface) (hspans : spans s iface data = false)
    (hsig : signature data = some sig) : forward s iface data = (s.take iface, sig) := by
  simp [forward, rxQualifiedPump, h, hspans, hsig]

theorem forward_garbage (h : s.active ≠ some iface) (hspans : spans s iface data = false)
    (hsig : signature data = none) :
    forward s iface data = (s.setPending iface (endsInDe data), []) := by
  simp [forward, rxQualifiedPump, h, hspans, hsig]

@[simp] theorem active_setPending (pending : Bool) :
    (s.setPending iface pending).active = s.active := rfl

@[simp] theorem pendingDe_setPending (pending : Bool) :
    (s.setPending iface pending).pendingDe iface = pending := by
  simp [State.setPending]

-- The chunk makes its interface the active one.
def TakesRoute (s : State) (iface : Iface) (data : List UInt8) : Prop :=
  s.active ≠ some iface ∧ (spans s iface data = true ∨ signature data ≠ none)

theorem spans_append (hfirst : first ≠ []) :
    spans s iface (first ++ second) = spans s iface first := by
  rw [spans, spans, List.head?_append_of_ne_nil _ hfirst]

-- When the route is taken, the matcher forgets that the chunk ended in 0xDE.
theorem splits_of_taken {out : List UInt8}
    (hfirst : forward s iface first = (s.take iface, out))
    (hwhole : forward s iface (first ++ second) = (s.take iface, out ++ second)) :
    Chunk.Splits forward s iface first second ↔ endsInDe second = false := by
  have htaken : (s.take iface).active = some iface := rfl
  simp only [Chunk.Splits, hfirst, hwhole, forward_active htaken, Prod.mk.injEq, and_true]
  rw [eq_comm, setPending_take]

-- Nothing has been found in the first part: the second decides, with or without
-- the seam.
theorem splits_of_garbage (hfirst : first ≠ []) (hsecond : second ≠ [])
    (hactive : s.active ≠ some iface) (hspans : spans s iface first = false)
    (hsig : signature first = none) : Chunk.Splits forward s iface first second := by
  have hwhole : spans s iface (first ++ second) = false := (spans_append hfirst).trans hspans
  have hthen : (s.setPending iface (endsInDe first)).active ≠ some iface := hactive
  have hcross : spans (s.setPending iface (endsInDe first)) iface second = true ↔
      endsInDe first = true ∧ second.head? = some 0xad := by
    simp [spans]
  have hseam := signature_append_none hsig second
  simp only [Chunk.Splits, forward_garbage hactive hspans hsig]
  cases hbridge : spans (s.setPending iface (endsInDe first)) iface second with
  | true =>
      rw [if_pos (hcross.mp hbridge)] at hseam
      rw [forward_spans hthen hbridge, forward_signature hactive hwhole hseam]
      simp
  | false =>
      rw [if_neg (by simp [← hcross, hbridge])] at hseam
      cases hlater : signature second with
      | none =>
          rw [forward_garbage hthen hbridge hlater,
            forward_garbage hactive hwhole (hseam.trans hlater)]
          simp [endsInDe_append first hsecond]
      | some sig =>
          rw [forward_signature hthen hbridge hlater,
            forward_signature hactive hwhole (hseam.trans hlater)]
          simp

theorem splits_iff (hfirst : first ≠ []) (hsecond : second ≠ []) :
    Chunk.Splits forward s iface first second ↔
      (TakesRoute s iface first → endsInDe second = false) := by
  by_cases hactive : s.active = some iface
  · have hthen : (s.setPending iface (endsInDe first)).active = some iface := hactive
    simp [Chunk.Splits, TakesRoute, forward_active hactive, forward_active hthen, hactive,
      endsInDe_append first hsecond]
  have hwhole : spans s iface (first ++ second) = spans s iface first := spans_append hfirst
  cases hspans : spans s iface first with
  | true =>
      rw [splits_of_taken (forward_spans hactive hspans)
        (forward_spans hactive (hwhole.trans hspans))]
      simp [TakesRoute, hactive, hspans]
  | false =>
      cases hsig : signature first with
      | some sig =>
          rw [splits_of_taken (forward_signature hactive hspans hsig)
            (forward_signature hactive (hwhole.trans hspans) (signature_append_some hsig))]
          simp [TakesRoute, hactive, hsig]
      | none =>
          refine iff_of_true (splits_of_garbage hfirst hsecond hactive hspans hsig) ?_
          simp [TakesRoute, hspans, hsig]

-- A chunk that takes the route does not end in 0xDE.
def Closed (s : State) (iface : Iface) (data : List UInt8) : Prop :=
  TakesRoute s iface data → endsInDe data = false

theorem active_forward (h : (forward s iface data).1.active ≠ some iface) :
    s.active ≠ some iface ∧ spans s iface data = false ∧ signature data = none := by
  by_cases hactive : s.active = some iface
  · rw [forward_active hactive] at h
    exact absurd hactive h
  refine ⟨hactive, ?_⟩
  cases hspans : spans s iface data with
  | true => simp [forward_spans hactive hspans, State.take] at h
  | false =>
      cases hsig : signature data with
      | some sig => simp [forward_signature hactive hspans hsig, State.take] at h
      | none => exact ⟨rfl, rfl⟩

-- What has not been taken by the first byte is taken by the rest.
theorem takesRoute_of_rest {byte : UInt8} {rest : List UInt8}
    (h : TakesRoute (forward s iface [byte]).1 iface rest) : TakesRoute s iface (byte :: rest) := by
  obtain ⟨hactive, htakes⟩ := h
  obtain ⟨hbefore, hspans, hsig⟩ := active_forward hactive
  rw [forward_garbage hbefore hspans hsig] at htakes
  have hseam := signature_append_none hsig rest
  refine ⟨hbefore, .inr ?_⟩
  rw [← List.singleton_append, hseam]
  rcases htakes with hbridge | hlater
  · rw [if_pos (by simpa [spans] using hbridge)]
    exact Option.some_ne_none _
  · split
    · exact Option.some_ne_none _
    · exact hlater

theorem closed_cons {byte : UInt8} {rest : List UInt8} (hrest : rest ≠ [])
    (h : Closed s iface (byte :: rest)) :
    Chunk.Splits forward s iface [byte] rest ∧ Closed (forward s iface [byte]).1 iface rest := by
  have hends : endsInDe (byte :: rest) = endsInDe rest := endsInDe_append [byte] hrest
  rw [Closed, hends] at h
  refine ⟨(splits_iff (List.cons_ne_nil _ _) hrest).mpr fun htakes => h ?_,
    fun htakes => h (takesRoute_of_rest htakes)⟩
  obtain ⟨hactive, hspans | hsig⟩ := htakes
  · exact ⟨hactive, .inl hspans⟩
  · simp [signature] at hsig

-- The law for two parts of a chunk holds just where the first part does not
-- take the route while the second ends in 0xDE. Where no chunk that takes the
-- route ends in 0xDE, it does not matter how the driver cut the streams.
theorem cut_independent_iff (s : State) :
    (∀ iface first second, first ≠ [] → second ≠ [] →
      (Chunk.Splits forward s iface first second ↔
        (TakesRoute s iface first → endsInDe second = false))) ∧
    ∀ arrivals other : List Arrival, Chunk.Along forward Closed s arrivals →
      Chunk.Along forward Closed s other → Chunk.elements arrivals = Chunk.elements other →
      Chunk.feed forward s arrivals = Chunk.feed forward s other :=
  ⟨fun _ _ _ => splits_iff, fun _ _ => Chunk.feed_congr fun _ _ _ _ => closed_cons⟩

theorem cut_independent_iff_parts :
    Chunk.Splits forward init .usb [0xde, 0xad] [0x05] ∧
      Chunk.feed forward init [⟨.usb, [0xde, 0xad, 0x05], by decide⟩] =
        Chunk.feed forward init [⟨.usb, [0xde], by decide⟩, ⟨.usb, [0xad, 0x05], by decide⟩] := by
  refine ⟨((cut_independent_iff init).1 .usb _ _ (by decide) (by decide)).mpr fun _ => by decide, ?_⟩
  refine (cut_independent_iff init).2 _ _ ⟨fun _ => by decide, trivial⟩
    ⟨?_, fun _ => by decide, trivial⟩ rfl
  rintro ⟨-, hspans | hsig⟩
  · exact absurd hspans (by decide)
  · exact absurd rfl hsig

-- After DE AD DE in one chunk the matcher does not know of the last 0xDE.
theorem not_cut_independent :
    ¬∀ s iface first second, first ≠ [] → second ≠ [] →
      Chunk.Splits forward s iface first second := by
  intro h
  have hsplits := h init .usb [0xde, 0xad] [0xde] (by decide) (by decide)
  have hpending := congrFun (congrArg (State.pendingDe ∘ Prod.fst) hsplits) .usb
  exact absurd hpending (by decide)

-- All that has arrived on one interface.
def stream (iface : Iface) (arrivals : List Arrival) : List UInt8 :=
  arrivals.flatMap fun arrival => if arrival.source = iface then arrival.data else []

-- The chunk, behind the last byte that its interface delivered before.
def continued (past : List Arrival) (arrival : Arrival) : List UInt8 :=
  (stream arrival.source past).getLast?.toList ++ arrival.data

-- The matcher remembers a 0xDE only if it was the last byte of its interface.
def Remembers (past : List Arrival) (s : State) : Prop :=
  ∀ iface, s.pendingDe iface = true → endsInDe (stream iface past) = true

theorem stream_concat (iface : Iface) (past : List Arrival) (arrival : Arrival) :
    stream iface (past ++ [arrival]) =
      stream iface past ++ if arrival.source = iface then arrival.data else [] := by
  simp [stream]

theorem pendingDe_forward (h : (forward s iface data).1.pendingDe iface = true) :
    endsInDe data = true := by
  unfold forward rxQualifiedPump at h
  split_ifs at h
  · simpa using h
  · simp [State.take] at h
  · cases hsig : signature data <;> simp_all [State.take]

theorem pendingDe_forward_of_ne {other : Iface} (hne : other ≠ iface) :
    (forward s iface data).1.pendingDe other = s.pendingDe other := by
  unfold forward rxQualifiedPump
  split_ifs
  · simp [State.setPending, hne]
  · simp [State.take, hne]
  · cases signature data <;> simp [State.setPending, State.take, hne]

theorem remembers_step {past : List Arrival} (arrival : Arrival) (h : Remembers past s) :
    Remembers (past ++ [arrival]) (forward s arrival.source arrival.data).1 := by
  intro iface hpending
  rw [stream_concat]
  by_cases hiface : arrival.source = iface
  · subst hiface
    rw [if_pos rfl, endsInDe_append _ arrival.nonempty]
    exact pendingDe_forward hpending
  · rw [if_neg hiface, List.append_nil]
    exact h iface ((pendingDe_forward_of_ne (Ne.symm hiface)).symm.trans hpending)

theorem remembers_feed (arrivals : List Arrival) :
    Remembers arrivals (Chunk.feed forward init arrivals).1 :=
  Chunk.feed_history Remembers (fun _ h => by simp [init] at h)
    (fun _ _ arrival => remembers_step arrival) arrivals

-- What the chunk does to the route and to the stream in the state that the
-- chunks before it have led to.
structure Gated (past : List Arrival) (arrival : Arrival) (s t : State) (out : List UInt8) :
    Prop where
  -- only a DE AD of its own stream makes an interface the active one
  flip : ∀ iface, t.active = some iface → s.active ≠ some iface →
    arrival.source = iface ∧ ∃ rest, 0xde :: 0xad :: rest <:+ continued past arrival
  -- what goes on starts with the pair and is all that follows it
  clean : s.active ≠ some arrival.source → out ≠ [] →
    ∃ rest, out = 0xde :: 0xad :: rest ∧ out <:+ continued past arrival
  garbage : s.active ≠ some arrival.source →
    (¬∃ rest, 0xde :: 0xad :: rest <:+ continued past arrival) → out = [] ∧ t.active = s.active

theorem gated_of_pair {past : List Arrival} {arrival : Arrival} {t : State} {out rest : List UInt8}
    (hout : out = 0xde :: 0xad :: rest) (hsuffix : out <:+ continued past arrival)
    (htake : t = s.take arrival.source) : Gated past arrival s t out := by
  subst htake
  refine ⟨fun iface hnow hbefore => ⟨Option.some.inj hnow, rest, hout ▸ hsuffix⟩,
    fun _ _ => ⟨rest, hout, hsuffix⟩, fun _ hnone => ?_⟩
  exact absurd ⟨rest, hout ▸ hsuffix⟩ hnone

theorem gated_of_remembers {past : List Arrival} (arrival : Arrival) (h : Remembers past s) :
    Gated past arrival s (forward s arrival.source arrival.data).1
      (forward s arrival.source arrival.data).2 := by
  by_cases hactive : s.active = some arrival.source
  · rw [forward_active hactive]
    refine ⟨fun iface hnow hbefore => ?_, fun hne => absurd hactive hne,
      fun hne => absurd hactive hne⟩
    exact absurd hnow hbefore
  cases hspans : spans s arrival.source arrival.data with
  | true =>
      rw [forward_spans hactive hspans]
      rw [spans, Bool.and_eq_true, decide_eq_true_eq] at hspans
      obtain ⟨hpending, hhead⟩ := hspans
      have hlast : (stream arrival.source past).getLast? = some 0xde := by
        simpa [endsInDe] using h arrival.source hpending
      obtain ⟨rest, hdata⟩ := List.head?_eq_some_iff.mp hhead
      have hcontinued : continued past arrival = 0xde :: arrival.data := by
        rw [continued, hlast]
        rfl
      exact gated_of_pair (congrArg (0xde :: ·) hdata) (hcontinued ▸ List.suffix_refl _) rfl
  | false =>
      cases hsig : signature arrival.data with
      | some sig =>
          rw [forward_signature hactive hspans hsig]
          obtain ⟨hsuffix, rest, hsig⟩ := signature_eq_some hsig
          exact gated_of_pair hsig (hsuffix.trans (List.suffix_append _ _)) rfl
      | none =>
          rw [forward_garbage hactive hspans hsig]
          exact ⟨fun iface hnow hbefore => absurd hnow hbefore, fun _ hout => absurd rfl hout,
            fun _ _ => ⟨rfl, rfl⟩⟩

theorem gated (past : List Arrival) (arrival : Arrival) :
    let s := (Chunk.feed forward init past).1
    let (t, out) := forward s arrival.source arrival.data
    Gated past arrival s t out :=
  gated_of_remembers arrival (remembers_feed past)

-- Every call is a chunk that rx_pump can take.
theorem calls_fit (hne : data ≠ []) (hfits : data.length ≤ BUF_SIZE) {call : List UInt8}
    (hcall : call ∈ (rxQualifiedPump s iface data).2) : 0 < call.length ∧ call.length ≤ BUF_SIZE := by
  have hdata : 0 < data.length ∧ data.length ≤ BUF_SIZE := ⟨List.length_pos_iff.mpr hne, hfits⟩
  unfold rxQualifiedPump at hcall
  split_ifs at hcall
  · rw [List.mem_singleton.mp hcall]
    exact hdata
  · rcases List.mem_cons.mp hcall with rfl | hcall
    · exact ⟨by decide, by decide⟩
    · rw [List.mem_singleton.mp hcall]
      exact hdata
  · cases hsig : signature data with
    | none => simp [hsig] at hcall
    | some sig =>
        obtain ⟨hsuffix, rest, hpair⟩ := signature_eq_some hsig
        rw [hsig] at hcall
        rw [List.mem_singleton.mp hcall]
        exact ⟨by rw [hpair]; exact Nat.succ_pos _, hsuffix.length_le.trans hfits⟩

end EspCoordinator.Transport.Routing
