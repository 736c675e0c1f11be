import CaptureKVMBridge.Tlv.Refine

/-!
# Resynchronisation

What the parser does with bytes that are not frames. Two rules move it over
garbage: a byte at which no `D5 AA type` begins is skipped (`framer_skip`), and
a header whose length is rejected is dropped whole (`framer_reject`). With the
frames themselves they make a grammar of the input (`Carries`), and what an
input carries is what is delivered (`carries_iff`).

The second rule is where frames are lost. A sync word that begins in the length
bytes of a rejected header goes with it, so a sender that restarts three or
four bytes into a header loses its next frame. The `TYPE` and `SYNC1` branches
look at the byte they reject; the length branch does not.
`tlvStreamFeedAll_garbage_iff` is the exact condition: garbage costs nothing
precisely when it does not end inside a header (`endsInHeader`).
-/

namespace CaptureKVMBridge.Tlv

open CaptureKVMBridge.Machine

variable {cfg : Config} {κ : Type}

/-- A sync word and a valid type. -/
def StartsTyped : List UInt8 → Prop
  | s0 :: s1 :: t :: _ =>
    s0 = protocolTlvSync0 ∧ s1 = protocolTlvSync1 ∧ protocolTlvTypeIsValid t = true
  | _ => False

instance : DecidablePred StartsTyped
  | [] => isFalse id
  | [_] => isFalse id
  | [_, _] => isFalse id
  | s0 :: s1 :: t :: _ =>
    inferInstanceAs (Decidable (s0 = protocolTlvSync0 ∧ s1 = protocolTlvSync1 ∧
      protocolTlvTypeIsValid t = true))

/-- A header the parser accepts: sync word, valid type, a length that
`tlv_length_is_sane` lets through. -/
def AcceptsHeader (cfg : Config) : List UInt8 → Prop
  | s0 :: s1 :: t :: m :: l :: _ =>
    s0 = protocolTlvSync0 ∧ s1 = protocolTlvSync1 ∧ protocolTlvTypeIsValid t = true ∧
      LengthSane cfg t (be16 m l)
  | _ => False

instance : DecidablePred (AcceptsHeader cfg)
  | [] => isFalse id
  | [_] => isFalse id
  | [_, _] => isFalse id
  | [_, _, _] => isFalse id
  | [_, _, _, _] => isFalse id
  | s0 :: s1 :: t :: m :: l :: _ =>
    inferInstanceAs (Decidable (s0 = protocolTlvSync0 ∧ s1 = protocolTlvSync1 ∧
      protocolTlvTypeIsValid t = true ∧ LengthSane cfg t (be16 m l)))

/-- Read from the left and cut into `D5 AA type msb lsb` groups and single
bytes, the input ends in a group that has its type but not its length. -/
def endsInHeader : List UInt8 → Bool
  | s0 :: s1 :: t :: m :: l :: rest =>
    if StartsTyped [s0, s1, t] then endsInHeader rest
    else endsInHeader (s1 :: t :: m :: l :: rest)
  | [s0, s1, t, m] => if StartsTyped [s0, s1, t] then true else endsInHeader [s1, t, m]
  | [s0, s1, t] => decide (StartsTyped [s0, s1, t])
  | [_, _] => false
  | [_] => false
  | [] => false

/-! ## Moving over garbage -/

/-- **A byte at which no typed header begins is skipped.** -/
theorem framer_skip (cfg : Config) {s0 s1 t : UInt8} (h : ¬StartsTyped [s0, s1, t])
    (w : List UInt8) :
    run (framerStep cfg) [] (s0 :: s1 :: t :: w) = run (framerStep cfg) [] (s1 :: t :: w) := by
  by_cases h0 : s0 = protocolTlvSync0
  · subst h0
    by_cases h1 : s1 = protocolTlvSync1
    · subst h1
      -- the type is bad: whether it is a sync byte is looked at either way
      have ht : ¬protocolTlvTypeIsValid t = true := fun ht => h ⟨rfl, rfl, ht⟩
      have hstep : framerStep cfg [protocolTlvSync0, protocolTlvSync1] t = framerStep cfg [] t := by
        simp only [framerStep, if_neg ht]
      rw [run, show framerStep cfg [] protocolTlvSync0 = ([protocolTlvSync0], none) from rfl,
        run, show framerStep cfg [protocolTlvSync0] protocolTlvSync1
          = ([protocolTlvSync0, protocolTlvSync1], none) from rfl, run, hstep,
        run, show framerStep cfg [] protocolTlvSync1 = ([], none) from rfl, run]
      rfl
    · have hstep : framerStep cfg [protocolTlvSync0] s1 = framerStep cfg [] s1 := by
        simp only [framerStep, if_neg h1]
      rw [run, show framerStep cfg [] protocolTlvSync0 = ([protocolTlvSync0], none) from rfl,
        run, hstep, run]
      rfl
  · have hstep : framerStep cfg [] s0 = ([], none) := by
      simp only [framerStep, if_neg h0]
    rw [run, hstep]
    rfl

/-- A typed header that is not complete is held. -/
theorem framer_typed (cfg : Config) {t : UInt8} (ht : protocolTlvTypeIsValid t = true) :
    run (framerStep cfg) [] [protocolTlvSync0, protocolTlvSync1, t]
      = ([protocolTlvSync0, protocolTlvSync1, t], []) := by
  have h2 : framerStep cfg [protocolTlvSync0, protocolTlvSync1] t
      = ([protocolTlvSync0, protocolTlvSync1, t], none) := by simp only [framerStep, if_pos ht]
  rw [run, show framerStep cfg [] protocolTlvSync0 = ([protocolTlvSync0], none) from rfl,
    run, show framerStep cfg [protocolTlvSync0] protocolTlvSync1
      = ([protocolTlvSync0, protocolTlvSync1], none) from rfl, run, h2]
  rfl

/-- The last byte of a rejected header empties the framer. -/
theorem framer_reject_lsb {t m l : UInt8} (hbad : ¬LengthSane cfg t (be16 m l)) (w : List UInt8) :
    run (framerStep cfg) [protocolTlvSync0, protocolTlvSync1, t, m] (l :: w)
      = run (framerStep cfg) [] w := by
  have h4 : framerStep cfg [protocolTlvSync0, protocolTlvSync1, t, m] l = ([], none) := by
    simp only [framerStep, if_neg hbad]
  rw [run, h4]
  rfl

/-- **A header with a rejected length is dropped whole.** -/
theorem framer_reject {t m l : UInt8} (ht : protocolTlvTypeIsValid t = true)
    (hbad : ¬LengthSane cfg t (be16 m l)) (w : List UInt8) :
    run (framerStep cfg) [] (protocolTlvSync0 :: protocolTlvSync1 :: t :: m :: l :: w)
      = run (framerStep cfg) [] w := by
  have h3 := framer_typed cfg ht
  rw [run_eq, Prod.mk.injEq] at h3
  rw [show protocolTlvSync0 :: protocolTlvSync1 :: t :: m :: l :: w
      = [protocolTlvSync0, protocolTlvSync1, t] ++ m :: l :: w from rfl, run_append, h3.1, h3.2,
    ← framer_reject_lsb hbad w]
  rfl

/-! ## What is held and what is delivered -/

/-- What a framer holds is the end of what it has read. -/
theorem framer_final_suffix : ∀ (w : List UInt8) {held : List UInt8}, Held cfg held →
    final (framerStep cfg) held w <:+ held ++ w := by
  intro w
  induction w with
  | nil =>
    intro held _
    rw [List.append_nil]
    exact List.suffix_rfl
  | cons b w ih =>
    intro held h
    rw [final_cons, show held ++ b :: w = (held ++ [b]) ++ w by simp]
    refine (ih (framerStep_held h b)).trans ?_
    rcases framerStep_cases h b with ⟨-, ⟨x, hx⟩, -⟩ | ⟨f, hf, -, -⟩
    · exact ⟨x, by rw [← List.append_assoc, hx]⟩
    · rw [hf]
      exact List.suffix_append _ _

/-- Fewer bytes than a header deliver nothing. -/
theorem framer_few {w : List UInt8} (h : w.length ≤ 4) : outputs (framerStep cfg) [] w = [] := by
  have hweight := framer_weight cfg w
  cases hout : outputs (framerStep cfg) [] w with
  | nil => rfl
  | cons f F =>
    have hf := (framer_sliced w (held_nil cfg)).2 f (by simp [hout])
    obtain ⟨t, m, l, p, rfl⟩ := hf.split
    rw [hout, wires_cons] at hweight
    simp only [wire, List.length_append, List.length_cons] at hweight
    omega

theorem framer_final_length (cfg : Config) (w : List UInt8) :
    (final (framerStep cfg) [] w).length ≤ w.length := by
  have hle := (framer_final_suffix w (held_nil cfg)).length_le
  rwa [List.nil_append] at hle

theorem framer_garbage_short {g : List UInt8} (h : g.length ≤ 2) (hg : endsInHeader g = false) :
    outputs (framerStep cfg) [] g = [] ∧ (final (framerStep cfg) [] g).length ≤ 4 ∧
      (endsInHeader g = true ↔ 3 ≤ (final (framerStep cfg) [] g).length) := by
  have hlen := framer_final_length cfg g
  refine ⟨framer_few (by omega), by omega, iff_of_false ?_ (by omega)⟩
  rw [hg]
  decide

/-- **Garbage without an accepted header** delivers nothing, and it leaves the
framer inside a header exactly when it ends in one. -/
theorem framer_garbage : ∀ (g w : List UInt8),
    (∀ i < g.length, ¬AcceptsHeader cfg ((g ++ w).drop i)) →
      outputs (framerStep cfg) [] g = [] ∧ (final (framerStep cfg) [] g).length ≤ 4 ∧
      (endsInHeader g = true ↔ 3 ≤ (final (framerStep cfg) [] g).length) := by
  intro g
  -- `endsInHeader` reads as the framer does: a rejected header at once, else one byte
  induction g using endsInHeader.induct with
  | case1 s0 s1 t m l rest htyped ih =>
    intro w hg
    obtain ⟨rfl, rfl, ht⟩ := htyped
    have hbad : ¬LengthSane cfg t (be16 m l) := fun hs =>
      hg 0 (Nat.zero_lt_succ _) ⟨rfl, rfl, ht, hs⟩
    have hrun := framer_reject ht hbad rest
    rw [run_eq, run_eq, Prod.mk.injEq] at hrun
    rw [hrun.1, hrun.2, endsInHeader, if_pos ⟨rfl, rfl, ht⟩]
    refine ih w fun i hi => ?_
    have hi' := hg (i + 5) (by simp only [List.length_cons]; omega)
    exact hi'
  | case2 s0 s1 t m l rest htyped ih =>
    intro w hg
    have hrun := framer_skip cfg htyped (m :: l :: rest)
    rw [run_eq, run_eq, Prod.mk.injEq] at hrun
    rw [hrun.1, hrun.2, endsInHeader, if_neg htyped]
    exact ih w fun i hi => hg (i + 1) (Nat.succ_lt_succ hi)
  | case3 s0 s1 t m htyped =>
    intro w _
    obtain ⟨rfl, rfl, ht⟩ := htyped
    have h3 := framer_typed cfg ht
    rw [run_eq, Prod.mk.injEq] at h3
    rw [show [protocolTlvSync0, protocolTlvSync1, t, m]
        = [protocolTlvSync0, protocolTlvSync1, t] ++ [m] from rfl, outputs_append, final_append,
      h3.1, h3.2]
    refine ⟨rfl, le_rfl, ?_⟩
    rw [List.cons_append, List.cons_append, List.cons_append, List.nil_append, endsInHeader,
      if_pos ⟨rfl, rfl, ht⟩]
    exact iff_of_true rfl (by decide : 3 ≤ 4)
  | case4 s0 s1 t m htyped ih =>
    intro w hg
    have hrun := framer_skip cfg htyped [m]
    rw [run_eq, run_eq, Prod.mk.injEq] at hrun
    rw [hrun.1, hrun.2, endsInHeader, if_neg htyped]
    exact ih w fun i hi => hg (i + 1) (Nat.succ_lt_succ hi)
  | case5 s0 s1 t =>
    intro w _
    by_cases htyped : StartsTyped [s0, s1, t]
    · obtain ⟨rfl, rfl, ht⟩ := htyped
      have h3 := framer_typed cfg ht
      rw [run_eq, Prod.mk.injEq] at h3
      rw [h3.1, h3.2, endsInHeader, decide_eq_true ⟨rfl, rfl, ht⟩]
      exact ⟨rfl, (by decide : 3 ≤ 4), iff_of_true rfl le_rfl⟩
    · have hrun := framer_skip cfg htyped []
      rw [run_eq, run_eq, Prod.mk.injEq] at hrun
      have hlen : (final (framerStep cfg) [] [s1, t]).length ≤ 2 := framer_final_length cfg [s1, t]
      rw [hrun.1, hrun.2, endsInHeader, decide_eq_false htyped]
      exact ⟨framer_few (by decide : 2 ≤ 4), by omega, iff_of_false (by decide) (by omega)⟩
  | case6 s0 s1 => exact fun _ _ => framer_garbage_short le_rfl rfl
  | case7 s0 => exact fun _ _ => framer_garbage_short (Nat.le_succ 1) rfl
  | case8 => exact fun _ _ => framer_garbage_short (Nat.zero_le 2) rfl

/-! ## Reading an input from the left -/

/-- The frames that an input carries, by the shape of the input alone: it is
cut from the left into frames on the wire, rejected headers and single bytes,
and may end in an unfinished header or payload. -/
inductive Carries (cfg : Config) : List UInt8 → List (List UInt8) → Prop
  | short {w : List UInt8} (h : w.length ≤ 2) : Carries cfg w []
  | skip {s0 s1 t : UInt8} {w : List UInt8} {F : List (List UInt8)}
      (h : ¬StartsTyped [s0, s1, t]) (hw : Carries cfg (s1 :: t :: w) F) :
      Carries cfg (s0 :: s1 :: t :: w) F
  | unfinished {s0 s1 t : UInt8} {w : List UInt8} (h : StartsTyped [s0, s1, t])
      (hw : w.length ≤ 1) : Carries cfg (s0 :: s1 :: t :: w) []
  | reject {t m l : UInt8} {w : List UInt8} {F : List (List UInt8)}
      (ht : protocolTlvTypeIsValid t = true) (hbad : ¬LengthSane cfg t (be16 m l))
      (hw : Carries cfg w F) :
      Carries cfg (protocolTlvSync0 :: protocolTlvSync1 :: t :: m :: l :: w) F
  | cut {t m l : UInt8} {p : List UInt8} (ht : protocolTlvTypeIsValid t = true)
      (hs : LengthSane cfg t (be16 m l)) (hp : p.length < (be16 m l).toNat) :
      Carries cfg (protocolTlvSync0 :: protocolTlvSync1 :: t :: m :: l :: p) []
  | frame {f w : List UInt8} {F : List (List UInt8)} (hf : WellFormedFrame cfg f)
      (hw : Carries cfg w F) : Carries cfg (wire f ++ w) (f :: F)

/-- An input carries what is delivered from it. -/
theorem Carries.delivered {w : List UInt8} {F : List (List UInt8)} (h : Carries cfg w F) :
    outputs (framerStep cfg) [] w = F := by
  induction h with
  | short h => exact framer_few (by omega)
  | skip h _ ih => exact (congrArg Prod.snd (framer_skip cfg h _)).trans ih
  | unfinished _ hw =>
    refine framer_few ?_
    simp only [List.length_cons]
    omega
  | reject ht hbad _ ih => exact (congrArg Prod.snd (framer_reject ht hbad _)).trans ih
  | @cut t m l p ht hs hp =>
    have hhdr := framer_header ht hs
    rw [run_eq, Prod.mk.injEq] at hhdr
    rw [show protocolTlvSync0 :: protocolTlvSync1 :: t :: m :: l :: p
        = [protocolTlvSync0, protocolTlvSync1, t, m, l] ++ p from rfl, outputs_append, hhdr.1,
      hhdr.2, framer_payload_more p [] (by simpa using hp)]
    rfl
  | frame hf _ ih => rw [framer_wire_append hf, ih]

/-- Every input can be read from the left. -/
theorem carries_exists (cfg : Config) :
    ∀ (n : Nat) (w : List UInt8), w.length ≤ n → ∃ F, Carries cfg w F := by
  intro n
  induction n with
  | zero => intro w hw; exact ⟨[], .short (by omega)⟩
  | succ n ih =>
    intro w hw
    match w with
    | [] => exact ⟨[], .short (Nat.zero_le 2)⟩
    | [_] => exact ⟨[], .short (Nat.le_succ 1)⟩
    | [_, _] => exact ⟨[], .short le_rfl⟩
    | s0 :: s1 :: t :: w =>
      by_cases htyped : StartsTyped [s0, s1, t]
      · match w with
        | [] => exact ⟨[], .unfinished htyped (Nat.zero_le 1)⟩
        | [_] => exact ⟨[], .unfinished htyped le_rfl⟩
        | m :: l :: p =>
          obtain ⟨rfl, rfl, ht⟩ := htyped
          simp only [List.length_cons] at hw
          by_cases hs : LengthSane cfg t (be16 m l)
          · by_cases hp : p.length < (be16 m l).toNat
            · exact ⟨[], .cut ht hs hp⟩
            · obtain ⟨F, hF⟩ := ih (p.drop (be16 m l).toNat) (by rw [List.length_drop]; omega)
              refine ⟨(t :: m :: l :: p.take (be16 m l).toNat) :: F, ?_⟩
              have hwf : WellFormedFrame cfg (t :: m :: l :: p.take (be16 m l).toNat) :=
                ⟨ht, hs, by rw [List.length_take]; omega⟩
              have hframe := Carries.frame hwf hF
              rwa [show wire (t :: m :: l :: p.take (be16 m l).toNat) ++ p.drop (be16 m l).toNat
                  = protocolTlvSync0 :: protocolTlvSync1 :: t :: m :: l ::
                    (p.take (be16 m l).toNat ++ p.drop (be16 m l).toNat) from rfl,
                List.take_append_drop] at hframe
          · obtain ⟨F, hF⟩ := ih p (by omega)
            exact ⟨F, .reject ht hs hF⟩
      · obtain ⟨F, hF⟩ := ih (s1 :: t :: w) (by simp only [List.length_cons] at hw ⊢; omega)
        exact ⟨F, .skip htyped hF⟩

/-- **What an input carries is what is delivered.** -/
theorem carries_iff {w : List UInt8} {F : List (List UInt8)} :
    Carries cfg w F ↔ outputs (framerStep cfg) [] w = F := by
  constructor
  · exact Carries.delivered
  · intro hout
    subst hout
    obtain ⟨F, hF⟩ := carries_exists cfg w.length w le_rfl
    rwa [← hF.delivered] at hF

/-! ## Garbage and then frames -/

/-- A framer with at most a sync word in hand starts over at the next one. -/
theorem framer_restart {held : List UInt8} (h : Held cfg held) (hlen : held.length ≤ 2)
    (w : List UInt8) :
    run (framerStep cfg) held (protocolTlvSync0 :: w)
      = run (framerStep cfg) [] (protocolTlvSync0 :: w) := by
  have hstep : framerStep cfg held protocolTlvSync0 = framerStep cfg [] protocolTlvSync0 := by
    match held, h with
    | [], _ => rfl
    | [_], _ => rfl
    | [_, _], _ => rfl
  rw [run, hstep, run]

/-- **A framer inside a header swallows the next sync word**, if the length
that it makes with the header is rejected: a shorter input is left to read. -/
theorem framer_swallow {held w : List UInt8} (h : Held cfg held) (h3 : 3 ≤ held.length)
    (h4 : held.length ≤ 4)
    (hbad : ¬AcceptsHeader cfg (held ++ protocolTlvSync0 :: protocolTlvSync1 :: w)) :
    outputs (framerStep cfg) held (protocolTlvSync0 :: protocolTlvSync1 :: w)
        = outputs (framerStep cfg) [] w ∨
    outputs (framerStep cfg) held (protocolTlvSync0 :: protocolTlvSync1 :: w)
        = outputs (framerStep cfg) [] (protocolTlvSync1 :: w) := by
  match held, h with
  | [s0, s1, t], ⟨hs0, hs1, ht⟩ =>
    left
    obtain ⟨rfl, rfl⟩ : s0 = protocolTlvSync0 ∧ s1 = protocolTlvSync1 := ⟨hs0, hs1⟩
    have hlen : ¬LengthSane cfg t (be16 protocolTlvSync0 protocolTlvSync1) := fun hs =>
      hbad ⟨rfl, rfl, ht, hs⟩
    exact congrArg Prod.snd (framer_reject_lsb hlen w)
  | [s0, s1, t, m], ⟨hs0, hs1, ht⟩ =>
    right
    obtain ⟨rfl, rfl⟩ : s0 = protocolTlvSync0 ∧ s1 = protocolTlvSync1 := ⟨hs0, hs1⟩
    have hlen : ¬LengthSane cfg t (be16 m protocolTlvSync0) := fun hs =>
      hbad ⟨rfl, rfl, ht, hs⟩
    exact congrArg Prod.snd (framer_reject_lsb hlen (protocolTlvSync1 :: w))

/-- **When garbage costs nothing**: between the garbage and the frames no
header is accepted that was not sent; then all frames arrive if and only if
the garbage does not end inside a header. -/
theorem framer_garbage_iff {g : List UInt8} {F : List (List UInt8)}
    (hF : ∀ f ∈ F, WellFormedFrame cfg f)
    (hg : ∀ i < g.length, ¬AcceptsHeader cfg ((g ++ wires F).drop i)) :
    outputs (framerStep cfg) [] (g ++ wires F) = F ↔ F = [] ∨ endsInHeader g = false := by
  obtain ⟨hout, h4, hends⟩ := framer_garbage g (wires F) hg
  have hheld : Held cfg (final (framerStep cfg) [] g) :=
    final_inv (framerStep cfg) (I := Held cfg) (fun _ b h => framerStep_held h b) g trivial
  rw [outputs_append, hout, List.nil_append]
  cases F with
  | nil => exact iff_of_true rfl (Or.inl rfl)
  | cons f F =>
    have hwires : wires (f :: F) = protocolTlvSync0 :: protocolTlvSync1 :: (f ++ wires F) := rfl
    cases he : endsInHeader g with
    | false =>
      refine iff_of_true ?_ (Or.inr rfl)
      have h2 : (final (framerStep cfg) [] g).length ≤ 2 := by
        have : ¬3 ≤ (final (framerStep cfg) [] g).length := fun h => by simp [hends.mpr h] at he
        omega
      rw [hwires]
      have hrestart := congrArg Prod.snd
        (framer_restart hheld h2 (protocolTlvSync1 :: (f ++ wires F)))
      exact hrestart.trans (framer_wires hF)
    | true =>
      refine iff_of_false ?_ (by simp)
      obtain ⟨x, hx⟩ := framer_final_suffix g (held_nil cfg)
      rw [List.nil_append] at hx
      have h3 := hends.mp he
      -- the header that `g` ends in, read on into the first frame
      have hbad : ¬AcceptsHeader cfg (final (framerStep cfg) [] g ++ wires (f :: F)) := by
        have hat := hg x.length (by
          have hlen := congrArg List.length hx
          rw [List.length_append] at hlen
          omega)
        rwa [← hx, List.append_assoc, List.drop_left] at hat
      intro hall
      -- all frames would have to be cut from less than they take
      have hweight : ∀ w : List UInt8, outputs (framerStep cfg) [] w = f :: F →
          (wires (f :: F)).length ≤ w.length := fun w hw => hw ▸ framer_weight cfg w
      rw [hwires] at hbad hall hweight
      simp only [List.length_cons] at hweight
      rcases framer_swallow hheld h3 h4 hbad with hs | hs
      · have := hweight _ (hs ▸ hall)
        omega
      · have := hweight _ (hs ▸ hall)
        simp only [List.length_cons] at this
        omega

/-- **Garbage costs a following frame exactly when it ends inside a header.**
A reset stream with a callback, in any chunking. -/
theorem tlvStreamFeedAll_garbage_iff (s : TlvStream cfg κ) {cb : κ} (hcb : s.callback = some cb)
    {g : List UInt8} {F : List (List UInt8)} (hF : ∀ f ∈ F, WellFormedFrame cfg f)
    (hg : ∀ i < g.length, ¬AcceptsHeader cfg ((g ++ wires F).drop i))
    {chunks : List (List UInt8)} (hchunks : chunks.flatten = g ++ wires F) :
    (tlvStreamFeedAll (tlvStreamReset s) chunks).2
        = F.map (fun f => { callback := cb, source := s.source, frame := f })
      ↔ F = [] ∨ endsInHeader g = false := by
  rw [(tlvStreamFeedAll_refines (tlvStreamReset_refines hcb) chunks).1, hchunks,
    ← framer_garbage_iff hF hg]
  constructor
  · intro h
    have hframes := congrArg (List.map CallbackCall.frame) h
    simp only [List.map_map] at hframes
    rwa [show (CallbackCall.frame ∘ fun f => (⟨cb, s.source, f⟩ : CallbackCall κ)) = id from rfl,
      List.map_id, List.map_id] at hframes
  · intro h
    rw [h]

/-- A header cut after one length byte, a key press in the same chunk: nothing
arrives. -/
theorem tlvStreamFeedAll_garbage_cut :
    let g : List UInt8 := [0xD5, 0xAA, 1, 0]
    let key : List UInt8 := [1, 0, 8, 2, 0, 4, 0, 0, 0, 0, 0]
    (∀ f ∈ [key], WellFormedFrame Config.shipped f) ∧
    (∀ i < g.length, ¬AcceptsHeader Config.shipped ((g ++ wires [key]).drop i)) ∧
    (tlvStreamFeedAll (tlvStreamReset (tlvStreamInit Config.shipped (some ()) .uart))
      [g ++ wires [key]]).2 = [] := by
  intro g key
  refine ⟨by decide, by decide, ?_⟩
  rw [(tlvStreamFeedAll_refines (tlvStreamReset_refines rfl) _).1]
  decide

/-- A header cut after its sync word costs nothing. -/
theorem tlvStreamFeedAll_garbage_sync :
    (tlvStreamFeedAll (tlvStreamReset (tlvStreamInit Config.shipped (some ()) .uart))
      [[0xD5, 0xAA], wires [[2, 0, 5, 1, 3, 0xFF, 0, 0]]]).2
        = [⟨(), .uart, [2, 0, 5, 1, 3, 0xFF, 0, 0]⟩] :=
  (tlvStreamFeedAll_garbage_iff (tlvStreamInit Config.shipped (some ()) .uart) rfl
    (g := [0xD5, 0xAA]) (F := [[2, 0, 5, 1, 3, 0xFF, 0, 0]]) (by decide) (by decide)
    (by decide)).mpr
    (Or.inr (by decide))

end CaptureKVMBridge.Tlv
