import AnchorKit.Base.Coupling
import AnchorKit.Contract.Batch

/-!
# Calls on different pairs commute

`attest`, `revoke` and `renew_attestation` read the settings and the cells of the
pair they name, and write those cells alone.  Two such calls on different pairs
meet only in the attestation count, which both orders move by the same amount;
the last free number of that count is the one thing they can compete for.
-/

set_option autoImplicit false

namespace AnchorKit.Contract

open AnchorKit.Base AnchorKit.Base.MachineInt

/-! ## What a call on a pair reads -/

/-- The settings are the same, and so are the cells of one pair, rent included. -/
structure Alike (pair : Pair) (left right : World) : Prop where
  governance : SameGovernance left right
  record : right.attestation.cells pair = left.attestation.cells pair
  counter : right.attestationSeq.cells pair = left.attestationSeq.cells pair
  entries : ∀ number, right.attestationHistory.cells (pair, number) =
    left.attestationHistory.cells (pair, number)

theorem Alike.refl (pair : Pair) (world : World) : Alike pair world world :=
  ⟨.refl world, rfl, rfl, fun _ => rfl⟩

theorem Alike.trans {pair : Pair} {first second third : World}
    (before : Alike pair first second) (after : Alike pair second third) :
    Alike pair first third where
  governance := before.governance.trans after.governance
  record := after.record.trans before.record
  counter := after.counter.trans before.counter
  entries number := (after.entries number).trans (before.entries number)

theorem Alike.join {pair : Pair} {base left right : World}
    (toLeft : Alike pair base left) (toRight : Alike pair base right) :
    Alike pair left right where
  governance := (SameGovernance.refl base).transport toLeft.governance toRight.governance
  record := toRight.record.trans toLeft.record.symm
  counter := toRight.counter.trans toLeft.counter.symm
  entries number := (toRight.entries number).trans (toLeft.entries number).symm

section Reads

variable {pair : Pair} {left right : World} (alike : Alike pair left right)

include alike

theorem Alike.isPaused : Storage.isPaused left = Storage.isPaused right := by
  simp only [Storage.isPaused, alike.governance.paused]

theorem Alike.isAttestor (attestor : Address) :
    Storage.isAttestor attestor left = Storage.isAttestor attestor right := by
  simp only [Storage.isAttestor, alike.governance.attestor]

theorem Alike.getMaxAttestationTtl (attestationType : Symbol) :
    Storage.getMaxAttestationTtl attestationType left =
      Storage.getMaxAttestationTtl attestationType right :=
  (alike.governance.getMaxAttestationTtl attestationType).symm

theorem Alike.getAttestation :
    Storage.getAttestation pair left = Storage.getAttestation pair right := by
  simp only [Storage.getAttestation, LiveMap.get, alike.record]

theorem Alike.getAttestationSeq :
    Storage.getAttestationSeq pair left = Storage.getAttestationSeq pair right := by
  simp only [Storage.getAttestationSeq, LiveMap.get, alike.counter]

end Reads

/-! ## The same write on both sides -/

section Writes

variable {pair : Pair} {left right : World}

theorem Alike.setAttestation (alike : Alike pair left right) (attestation : Attestation)
    (env : Env) :
    Alike pair (Storage.setAttestation pair attestation env left)
      (Storage.setAttestation pair attestation env right) where
  governance := alike.governance.transport ⟨rfl, rfl, rfl, rfl, rfl, rfl⟩
    ⟨rfl, rfl, rfl, rfl, rfl, rfl⟩
  record := by
    simp only [Storage.setAttestation, LiveMap.cells_set_extendTtl, if_true,
      LiveMap.writeExpiry_congr alike.record]
  counter := alike.counter
  entries := alike.entries

theorem Alike.setAttestationSeq (alike : Alike pair left right) (sequence : UInt64)
    (env : Env) :
    Alike pair (Storage.setAttestationSeq pair sequence env left)
      (Storage.setAttestationSeq pair sequence env right) where
  governance := alike.governance.transport ⟨rfl, rfl, rfl, rfl, rfl, rfl⟩
    ⟨rfl, rfl, rfl, rfl, rfl, rfl⟩
  record := alike.record
  counter := by
    simp only [Storage.setAttestationSeq, LiveMap.set, LiveMap.cells_put, if_true,
      LiveMap.writeExpiry_congr alike.counter]
  entries := alike.entries

theorem Alike.setHistoryEntry (alike : Alike pair left right) (sequence : UInt64)
    (attestation : Attestation) (env : Env) :
    Alike pair (Storage.setHistoryEntry pair sequence attestation env left)
      (Storage.setHistoryEntry pair sequence attestation env right) where
  governance := alike.governance.transport ⟨rfl, rfl, rfl, rfl, rfl, rfl⟩
    ⟨rfl, rfl, rfl, rfl, rfl, rfl⟩
  record := alike.record
  counter := alike.counter
  entries number := by
    simp only [Storage.setHistoryEntry, LiveMap.cells_set_extendTtl,
      LiveMap.writeExpiry_congr (alike.entries sequence), alike.entries number]

theorem Alike.emit (alike : Alike pair left right) (event : Event) :
    Alike pair (left.emit event) (right.emit event) :=
  ⟨alike.governance.transport ⟨rfl, rfl, rfl, rfl, rfl, rfl⟩ ⟨rfl, rfl, rfl, rfl, rfl, rfl⟩,
    alike.record, alike.counter, alike.entries⟩

theorem Alike.setAttestationCount (alike : Alike pair left right)
    (leftCount rightCount : UInt64) (env : Env) :
    Alike pair (Storage.setAttestationCount leftCount env left)
      (Storage.setAttestationCount rightCount env right) :=
  ⟨alike.governance.transport ⟨rfl, rfl, rfl, rfl, rfl, rfl⟩ ⟨rfl, rfl, rfl, rfl, rfl, rfl⟩,
    alike.record, alike.counter, alike.entries⟩

end Writes

/-! ## The programs -/

section Programs

variable {Split : Prop} {pair : Pair}

theorem requireAuth_coupled (address : Address) :
    (requireAuth address).Coupled Split (Alike pair) (Alike pair) :=
  .bind (.ask _) fun _ => .rejectIf _ _

theorem getAdmin_coupled :
    Storage.getAdmin.Coupled Split (Alike pair) (Alike pair) :=
  .bind (.inspect fun _ _ alike => alike.governance.admin.symm) fun _ => .someOr _ _

theorem publish_coupled (event : Event) :
    (publish event).Coupled Split (Alike pair) (Alike pair) :=
  .update fun _ _ _ alike => alike.emit event

theorem pushAttestationHistory_coupled (attestation : Attestation) :
    (Storage.pushAttestationHistory pair attestation).Coupled Split (Alike pair)
      (Alike pair) := by
  apply Program.Coupled.bind
  · apply Program.Coupled.bind (.inspect fun _ _ alike => alike.getAttestationSeq)
    intro current
    apply Program.Coupled.bind (.someOr _ _)
    intro next
    apply Program.Coupled.bind
    · exact .update fun env _ _ alike => alike.setAttestationSeq next env
    · intro _
      exact .pure next
  · intro sequence
    exact .update fun env _ _ alike => alike.setHistoryEntry sequence attestation env

/-- The count is no part of what the two sides share, so at its end `attest` may
succeed on one side and overflow on the other. -/
theorem countAndPublish_coupled (event : Event) :
    (Storage.bumpAttestationCount >>= fun _ => publish event).Coupled True (Alike pair)
      (Alike pair) := by
  have outcome : ∀ env world,
      (Storage.bumpAttestationCount >>= fun _ => publish event) env world =
        match checkedAdd (Storage.getAttestationCount world) 1 with
        | some next =>
            (.ok (), (Storage.setAttestationCount next env world).emit event)
        | none => (.error .abort, world) := by
    intro env world
    cases next : checkedAdd (Storage.getAttestationCount world) 1 with
    | none =>
        simp [Program.bind_apply, Storage.bumpAttestationCount, addOrAbort,
          Program.inspect, next, Program.someOr, Program.fail]
    | some count =>
        apply Program.bind_ok.mpr
        exact ⟨count, _, bumpAttestationCount_ok.mpr ⟨next, rfl⟩, rfl⟩
  intro env left right alike
  rw [outcome, outcome]
  cases checkedAdd (Storage.getAttestationCount left) 1 with
  | none =>
      cases checkedAdd (Storage.getAttestationCount right) 1 with
      | none => exact .fail _ left right
      | some rightCount => exact .rightOnly trivial _ _ _ _
  | some leftCount =>
      cases checkedAdd (Storage.getAttestationCount right) 1 with
      | none => exact .leftOnly trivial _ _ _ _
      | some rightCount =>
          exact .succeed () ((alike.setAttestationCount leftCount rightCount env).emit event)

theorem attest_coupled (attestor : Address) (entry : BatchAttestEntry) :
    (invoke (.attest attestor entry)).Coupled True (Alike (Entry.pairOf entry))
      (Alike (Entry.pairOf entry)) := by
  refine Program.Coupled.bindTotal ?_ (fun _ => .pure _) (fun _ => .pure _)
  apply Program.Coupled.bind (.inspect fun _ _ alike => alike.isPaused)
  intro paused
  apply Program.Coupled.bind (.rejectIf _ _)
  intro _
  apply Program.Coupled.bind (requireAuth_coupled attestor)
  intro _
  apply Program.Coupled.bind (.inspect fun _ _ alike => alike.isAttestor attestor)
  intro listed
  apply Program.Coupled.bind (.rejectIf _ _)
  intro _
  apply Program.Coupled.bind (.rejectIf _ _)
  intro _
  apply Program.Coupled.bind (.rejectIf _ _)
  intro _
  apply Program.Coupled.bind
    (.inspect fun _ _ alike => alike.getMaxAttestationTtl entry.attestationType)
  intro maxTtl
  apply Program.Coupled.bind (.rejectIf _ _)
  intro _
  apply Program.Coupled.bind (.ask _)
  intro issuedAt
  apply Program.Coupled.bind
    (.update fun env _ _ alike => alike.setAttestation _ env)
  intro _
  apply Program.Coupled.bind (pushAttestationHistory_coupled _)
  intro _
  exact countAndPublish_coupled _

theorem revoke_coupled (caller : Address) (pair : Pair) :
    (invoke (.revoke caller pair)).Coupled Split (Alike pair) (Alike pair) := by
  refine Program.Coupled.bind ?_ fun _ => .pure _
  apply Program.Coupled.bind (.inspect fun _ _ alike => alike.isPaused)
  intro paused
  apply Program.Coupled.bind (.rejectIf _ _)
  intro _
  apply Program.Coupled.bind (requireAuth_coupled caller)
  intro _
  apply Program.Coupled.bind (.inspect fun _ _ alike => alike.getAttestation)
  intro found
  apply Program.Coupled.bind (.someOr _ _)
  intro attestation
  apply Program.Coupled.bind getAdmin_coupled
  intro admin
  apply Program.Coupled.bind (.rejectIf _ _)
  intro _
  apply Program.Coupled.bind (.rejectIf _ _)
  intro _
  apply Program.Coupled.bind
    (.update fun env _ _ alike => alike.setAttestation _ env)
  intro _
  apply Program.Coupled.bind (pushAttestationHistory_coupled _)
  intro _
  exact publish_coupled _

theorem renewAttestation_coupled (caller : Address) (pair : Pair) :
    (invoke (.renewAttestation caller pair)).Coupled Split (Alike pair) (Alike pair) := by
  refine Program.Coupled.bind ?_ fun _ => .pure _
  apply Program.Coupled.bind (requireAuth_coupled caller)
  intro _
  apply Program.Coupled.bind (.inspect fun _ _ alike => alike.getAttestation)
  intro found
  apply Program.Coupled.bind (.someOr _ _)
  intro attestation
  apply Program.Coupled.bind getAdmin_coupled
  intro admin
  apply Program.Coupled.bind (.rejectIf _ _)
  intro _
  apply Program.Coupled.bind
    (.update fun env _ _ alike => alike.setAttestation _ env)
  intro _
  exact publish_coupled _

end Programs

/-! ## What a call on a pair leaves alone -/

section Frame

variable {env : Env} {pair other : Pair} {attestation : Attestation}
  {before after : World}

theorem setAttestation_alike (different : other ≠ pair) :
    Alike other before (Storage.setAttestation pair attestation env before) where
  governance := ⟨rfl, rfl, rfl, rfl, rfl, rfl⟩
  record := by
    simp only [Storage.setAttestation, LiveMap.cells_set_extendTtl, different, if_false]
  counter := rfl
  entries _ := rfl

theorem Appended.alike (appended : Appended env pair attestation before after)
    (different : other ≠ pair) : Alike other before after := by
  obtain ⟨sequence, _, rfl⟩ := appended
  refine (setAttestation_alike different).trans ⟨⟨rfl, rfl, rfl, rfl, rfl, rfl⟩, rfl, ?_, ?_⟩
  · simp only [Storage.setHistoryEntry, Storage.setAttestationSeq, LiveMap.set,
      LiveMap.cells_put, different, if_false]
  · intro number
    simp only [Storage.setHistoryEntry, Storage.setAttestationSeq,
      LiveMap.cells_set_extendTtl, Prod.mk.injEq, different, false_and, if_false]

theorem Recorded.alike {attestor : Address} {entry : BatchAttestEntry}
    (recorded : Recorded env attestor entry before after)
    (different : other ≠ Entry.pairOf entry) : Alike other before after := by
  obtain ⟨_, _, pushed, _, rfl⟩ := recorded.written
  exact (pushed.alike different).trans
    ⟨⟨rfl, rfl, rfl, rfl, rfl, rfl⟩, rfl, rfl, fun _ => rfl⟩

end Frame

inductive PairCall where
  | attest (attestor : Address) (entry : BatchAttestEntry)
  | revoke (caller : Address) (pair : Pair)
  | renewAttestation (caller : Address) (pair : Pair)

namespace PairCall

def call : PairCall → Call
  | attest attestor entry => .attest attestor entry
  | revoke caller pair => .revoke caller pair
  | renewAttestation caller pair => .renewAttestation caller pair

def pair : PairCall → Pair
  | attest _ entry => Entry.pairOf entry
  | revoke _ pair => pair
  | renewAttestation _ pair => pair

def attests : PairCall → Bool
  | attest _ _ => true
  | _ => false

def step (named : PairCall) (env : Env) : Step := ⟨env, named.call⟩

theorem step_alike (named : PairCall) (env : Env) (world : World) {other : Pair}
    (different : other ≠ named.pair) :
    Alike other world (world.step (named.step env)) := by
  rcases step_cases world (named.step env) with ⟨_, same⟩ | ⟨succeeded, committed⟩
  · rw [same]
    exact .refl other world
  · cases named with
    | attest attestor entry =>
        have recorded := (attest_step_iff.mp ⟨succeeded, rfl⟩).2
        exact recorded.alike different
    | revoke caller pair =>
        obtain ⟨_, _, _, write, later⟩ := committed.of_revoke
        rw [later]
        exact (write.alike different).trans
          ⟨⟨rfl, rfl, rfl, rfl, rfl, rfl⟩, rfl, rfl, fun _ => rfl⟩
    | renewAttestation caller pair =>
        obtain ⟨_, _, later⟩ := committed.of_renewAttestation
        rw [later]
        exact (setAttestation_alike different).trans
          ⟨⟨rfl, rfl, rfl, rfl, rfl, rfl⟩, rfl, rfl, fun _ => rfl⟩

theorem step_count (named : PairCall) (env : Env) (world : World) :
    (world.step (named.step env)).attestationCount =
      if named.attests && (named.step env).succeeds world then
        checkedAdd (Storage.getAttestationCount world) 1
      else world.attestationCount := by
  rcases step_cases world (named.step env) with ⟨failed, same⟩ | ⟨succeeded, committed⟩
  · simp [failed, same]
  · cases named with
    | attest attestor entry =>
        have recorded := (attest_step_iff.mp ⟨succeeded, rfl⟩).2
        obtain ⟨appended, count, _, counted, later⟩ := recorded.written
        rw [succeeded, counted]
        exact congrArg World.attestationCount later
    | revoke caller pair =>
        obtain ⟨_, _, _, write, later⟩ := committed.of_revoke
        rw [later]
        exact write.attestationCount
    | renewAttestation caller pair =>
        obtain ⟨_, _, later⟩ := committed.of_renewAttestation
        rw [later]
        rfl

theorem coupled (named : PairCall) :
    (invoke named.call).Coupled True (Alike named.pair) (Alike named.pair) := by
  cases named with
  | attest attestor entry => exact attest_coupled attestor entry
  | revoke caller pair => exact revoke_coupled caller pair
  | renewAttestation caller pair => exact renewAttestation_coupled caller pair

/-- What a call on a pair reads, and for an `attest` whether the count can still
move, decides whether it succeeds. -/
theorem succeeds_alike (named : PairCall) (env : Env) {left right : World}
    (alike : Alike named.pair left right)
    (room : named.attests = true →
      ((checkedAdd (Storage.getAttestationCount left) 1).isSome = true ↔
        (checkedAdd (Storage.getAttestationCount right) 1).isSome = true)) :
    (named.step env).succeeds left = (named.step env).succeeds right := by
  cases named with
  | attest attestor entry =>
      have gates : MayAttest env attestor right ↔ MayAttest env attestor left :=
        MayAttest.of_sameGovernance alike.governance
      have sequences : Storage.getAttestationSeq (Entry.pairOf entry) left =
          Storage.getAttestationSeq (Entry.pairOf entry) right := alike.getAttestationSeq
      apply Bool.eq_iff_iff.mpr
      simp only [step, call]
      rw [attest_succeeds_iff, attest_succeeds_iff, gates, alike.getMaxAttestationTtl,
        sequences, room rfl]
  | revoke caller pair => exact (revoke_coupled caller pair).succeeds_eq alike
  | renewAttestation caller pair =>
      exact (renewAttestation_coupled caller pair).succeeds_eq alike

end PairCall

/-! ## Both orders -/

structure SameStorage (left right : World) : Prop where
  governance : SameGovernance left right
  count : right.attestationCount = left.attestationCount
  attestation : right.attestation = left.attestation
  attestationSeq : right.attestationSeq = left.attestationSeq
  attestationHistory : right.attestationHistory = left.attestationHistory

/-- Each call ends in the same way in both orders, and both orders leave the same
storage. -/
structure Commutes (world : World) (first second : Step) : Prop where
  firstResult : (invoke first.call first.env (world.step second)).1 =
    (invoke first.call first.env world).1
  secondResult : (invoke second.call second.env (world.step first)).1 =
    (invoke second.call second.env world).1
  storage : SameStorage ((world.step first).step second) ((world.step second).step first)

/-- Two attests that would each succeed compete for the last number of the count. -/
structure Contended (world : World) (first second : PairCall)
    (firstEnv secondEnv : Env) : Prop where
  almostFull : (Storage.getAttestationCount world).toNat = 2 ^ 64 - 2
  firstAttests : first.attests = true
  secondAttests : second.attests = true
  firstSucceeds : (first.step firstEnv).succeeds world = true
  secondSucceeds : (second.step secondEnv).succeeds world = true

theorem Contended.symm {world : World} {first second : PairCall}
    {firstEnv secondEnv : Env}
    (contended : Contended world first second firstEnv secondEnv) :
    Contended world second first secondEnv firstEnv :=
  ⟨contended.almostFull, contended.secondAttests, contended.firstAttests,
    contended.secondSucceeds, contended.firstSucceeds⟩

theorem PairCall.count_free {named : PairCall} {env : Env} {world : World}
    (attests : named.attests = true) (succeeded : (named.step env).succeeds world = true) :
    (Storage.getAttestationCount world).toNat + 1 ≤ u64Max := by
  cases named with
  | attest attestor entry =>
      obtain ⟨_, _, _, _, _, counts⟩ := attest_succeeds_iff.mp succeeded
      exact checkedAdd_isSome_iff.mp counts
  | revoke _ _ => cases attests
  | renewAttestation _ _ => cases attests

theorem PairCall.count_after {named : PairCall} {env : Env} {world : World}
    (attests : named.attests = true) (succeeded : (named.step env).succeeds world = true) :
    (Storage.getAttestationCount (world.step (named.step env))).toNat =
      (Storage.getAttestationCount world).toNat + 1 := by
  have moved := named.step_count env world
  have room : (checkedAdd (Storage.getAttestationCount world) 1).isSome = true :=
    checkedAdd_isSome_iff.mpr (count_free attests succeeded)
  obtain ⟨count, counted⟩ := Option.isSome_iff_exists.mp room
  rw [attests, succeeded, counted] at moved
  rw [Storage.getAttestationCount, moved]
  exact checkedAdd_eq_some counted

section Orders

variable {world : World} {first second : PairCall} {firstEnv secondEnv : Env}

theorem Contended.second_fails
    (contended : Contended world first second firstEnv secondEnv) :
    (second.step secondEnv).succeeds (world.step (first.step firstEnv)) = false := by
  have full := PairCall.count_after contended.firstAttests contended.firstSucceeds
  rw [contended.almostFull] at full
  by_contra succeeded
  have room := PairCall.count_free contended.secondAttests (eq_true_of_ne_false succeeded)
  rw [full, u64Max] at room
  omega

theorem Contended.not_commutes
    (contended : Contended world first second firstEnv secondEnv) :
    ¬ Commutes world (first.step firstEnv) (second.step secondEnv) := by
  intro commutes
  have fails := contended.second_fails
  have succeeds := contended.secondSucceeds
  have same := congrArg Except.toBool commutes.secondResult
  simp only [Step.succeeds, Program.succeeds] at fails succeeds
  rw [fails, succeeds] at same
  contradiction

theorem succeeds_after (different : second.pair ≠ first.pair)
    (free : ¬ Contended world first second firstEnv secondEnv) :
    (second.step secondEnv).succeeds (world.step (first.step firstEnv)) =
      (second.step secondEnv).succeeds world := by
  have alike := first.step_alike firstEnv world different
  by_cases moved : (first.attests && (first.step firstEnv).succeeds world) = true
  · obtain ⟨firstAttests, firstSucceeds⟩ := Bool.and_eq_true_iff.mp moved
    have counted := PairCall.count_after firstAttests firstSucceeds
    by_cases full : (Storage.getAttestationCount world).toNat = 2 ^ 64 - 2
    · -- the second call cannot succeed here, since it would contend
      by_cases secondAttests : second.attests = true
      · have fails : (second.step secondEnv).succeeds world = false := by
          by_contra succeeded
          exact free ⟨full, firstAttests, secondAttests, firstSucceeds,
            eq_true_of_ne_false succeeded⟩
        rw [fails]
        by_contra succeeded
        have room := PairCall.count_free secondAttests
          (eq_true_of_ne_false succeeded)
        rw [counted, full, u64Max] at room
        omega
      · exact (second.succeeds_alike secondEnv alike
          fun attests => absurd attests secondAttests).symm
    · have room := PairCall.count_free firstAttests firstSucceeds
      refine (second.succeeds_alike secondEnv alike fun _ => ?_).symm
      rw [checkedAdd_isSome_iff, checkedAdd_isSome_iff, counted]
      unfold u64Max at room ⊢
      change _ + 1 ≤ _ ↔ _ + 1 + 1 ≤ _
      omega
  · have kept := first.step_count firstEnv world
    rw [if_neg moved] at kept
    refine (second.succeeds_alike secondEnv alike fun _ => ?_).symm
    simp only [Storage.getAttestationCount, kept]

theorem same_result (different : second.pair ≠ first.pair)
    (free : ¬ Contended world first second firstEnv secondEnv) :
    (invoke second.call secondEnv (world.step (first.step firstEnv))).1 =
      (invoke second.call secondEnv world).1 := by
  have alike := first.step_alike firstEnv world different
  have succeeds := succeeds_after different free
  exact (second.coupled.same_result alike succeeds.symm).symm

theorem alike_both_orders (different : first.pair ≠ second.pair)
    (free : ¬ Contended world first second firstEnv secondEnv) (pair : Pair) :
    Alike pair ((world.step (first.step firstEnv)).step (second.step secondEnv))
      ((world.step (second.step secondEnv)).step (first.step firstEnv)) := by
  by_cases isFirst : pair = first.pair
  · subst pair
    have own : Alike first.pair (world.step (first.step firstEnv))
        ((world.step (second.step secondEnv)).step (first.step firstEnv)) :=
      first.coupled.commit (second.step_alike secondEnv world different)
        (succeeds_after different fun contended => free contended.symm).symm
    exact (second.step_alike secondEnv _ different).join own
  · by_cases isSecond : pair = second.pair
    · subst pair
      have own : Alike second.pair (world.step (second.step secondEnv))
          ((world.step (first.step firstEnv)).step (second.step secondEnv)) :=
        second.coupled.commit (first.step_alike firstEnv world different.symm)
          (succeeds_after different.symm free).symm
      exact own.join (first.step_alike firstEnv _ different.symm)
    · have firstOrder := (first.step_alike firstEnv world isFirst).trans
        (second.step_alike secondEnv _ isSecond)
      have secondOrder := (second.step_alike secondEnv world isSecond).trans
        (first.step_alike firstEnv _ isFirst)
      exact firstOrder.join secondOrder

theorem count_both_orders (different : first.pair ≠ second.pair)
    (free : ¬ Contended world first second firstEnv secondEnv) :
    ((world.step (second.step secondEnv)).step (first.step firstEnv)).attestationCount =
      ((world.step (first.step firstEnv)).step (second.step secondEnv)).attestationCount := by
  have afterFirst := succeeds_after different.symm free
  have afterSecond := succeeds_after different fun contended => free contended.symm
  simp only [Storage.getAttestationCount, PairCall.step_count, afterFirst, afterSecond]
  cases (first.attests && (first.step firstEnv).succeeds world) <;>
    cases (second.attests && (second.step secondEnv).succeeds world) <;> rfl

theorem sameStorage_of_alike {left right : World} (alike : ∀ pair, Alike pair left right)
    (governance : SameGovernance left right)
    (count : right.attestationCount = left.attestationCount) : SameStorage left right where
  governance := governance
  count := count
  attestation := LiveMap.ext (funext fun pair => (alike pair).record)
  attestationSeq := LiveMap.ext (funext fun pair => (alike pair).counter)
  attestationHistory := LiveMap.ext (funext fun key => (alike key.1).entries key.2)

end Orders

/-- Two calls on different pairs commute, whoever makes them and whatever they
hold, unless they are two attests that compete for the last number of the
attestation count; then the one that comes second aborts in either order. -/
theorem independent_calls_commute_iff (world : World) (first second : PairCall)
    (firstEnv secondEnv : Env) (different : first.pair ≠ second.pair) :
    Commutes world (first.step firstEnv) (second.step secondEnv) ↔
      ¬ Contended world first second firstEnv secondEnv := by
  constructor
  · intro commutes contended
    exact contended.not_commutes commutes
  · intro free
    have alike := alike_both_orders different free
    exact ⟨same_result different fun contended => free contended.symm,
      same_result different.symm free,
      sameStorage_of_alike alike (alike first.pair).governance
        (count_both_orders different free)⟩

section Sample

def attestFor (subject : Address) : PairCall :=
  .attest ⟨1⟩ { sampleEntry 200 with subject := subject }

end Sample

theorem fresh_attests_commute :
    Commutes (reached sampleDeployment) ((attestFor ⟨2⟩).step sampleEnv)
      ((attestFor ⟨3⟩).step sampleEnv) := by
  refine (independent_calls_commute_iff _ (attestFor ⟨2⟩) (attestFor ⟨3⟩) sampleEnv
    sampleEnv (by decide)).mpr ?_
  intro contended
  have empty : (Storage.getAttestationCount (reached sampleDeployment)).toNat = 0 := by
    decide +kernel
  have full := contended.almostFull
  omega

/-! ## A count with one number left -/

section Crowded

def crowdedRun (attests : Nat) : List Step :=
  sampleDeployment ++ List.replicate attests ((attestFor ⟨2⟩).step sampleEnv)

structure Crowded (attests : Nat) (world : World) : Prop where
  governance : SameGovernance (reached sampleDeployment) world
  count : (Storage.getAttestationCount world).toNat = attests
  sequences : ∀ pair, (Storage.getAttestationSeq pair world).toNat ≤ attests

variable {attests : Nat} {world : World}

theorem Crowded.succeeds (crowded : Crowded attests world) (room : attests + 1 ≤ u64Max)
    (subject : Address) :
    ((attestFor subject).step sampleEnv).succeeds world = true := by
  apply attest_succeeds_iff.mpr
  have gates : MayAttest sampleEnv ⟨1⟩ (reached sampleDeployment) :=
    ⟨by decide +kernel, by decide +kernel, by decide +kernel⟩
  have cap : (sampleEntry 200).ttlSeconds ≤
      Storage.getMaxAttestationTtl sampleType (reached sampleDeployment) := by
    decide +kernel
  have positive : (sampleEntry 200).ttlSeconds ≠ 0 := by decide
  have short : sampleType.chars.length ≤ Entry.maxAttestationTypeLen := by decide
  refine ⟨(MayAttest.of_sameGovernance crowded.governance).mpr gates, positive, short,
    ?_, ?_, ?_⟩
  · rw [crowded.governance.getMaxAttestationTtl]
    exact cap
  · have bound := crowded.sequences (subject, sampleType)
    exact checkedAdd_isSome_iff.mpr ((Nat.add_le_add_right bound 1).trans room)
  · have counted := crowded.count
    exact checkedAdd_isSome_iff.mpr ((Nat.add_le_add_right counted.le 1).trans room)

theorem Crowded.step (crowded : Crowded attests world) (room : attests + 1 ≤ u64Max)
    (subject : Address) :
    Crowded (attests + 1) (world.step ((attestFor subject).step sampleEnv)) := by
  have succeeded := crowded.succeeds room subject
  have recorded := (attest_step_iff.mp ⟨succeeded, rfl⟩).2
  refine ⟨crowded.governance.trans recorded.sameGovernance, ?_, ?_⟩
  · rw [PairCall.count_after rfl succeeded, crowded.count]
  · intro pair
    have bound := crowded.sequences pair
    by_cases named : pair = (subject, sampleType)
    · rw [named] at bound ⊢
      have advanced := recorded.wrote.advanced
      exact advanced.trans_le (Nat.add_le_add_right bound 1)
    · have kept := recorded.wrote.unmoved pair named
      exact (congrArg UInt64.toNat kept).trans_le (bound.trans (Nat.le_succ attests))

theorem reached_crowdedRun_succ (attests : Nat) :
    reached (crowdedRun (attests + 1)) =
      (reached (crowdedRun attests)).step ((attestFor ⟨2⟩).step sampleEnv) := by
  rw [crowdedRun, List.replicate_succ', ← List.append_assoc, reached_append_singleton]
  rfl

theorem crowdedRun_crowded (attests : Nat) (bound : attests ≤ u64Max) :
    Crowded attests (reached (crowdedRun attests)) := by
  induction attests with
  | zero =>
      refine ⟨.refl _, by decide +kernel, ?_⟩
      intro pair
      exact Nat.le_of_eq rfl
  | succ attests ih =>
      rw [reached_crowdedRun_succ]
      exact (ih (by omega)).step bound ⟨2⟩

theorem crowdedRun_sequence (attests : Nat) (bound : attests ≤ u64Max) :
    (Storage.getAttestationSeq (⟨2⟩, sampleType) (reached (crowdedRun attests))).toNat =
      attests := by
  induction attests with
  | zero => decide +kernel
  | succ attests ih =>
      have succeeded :=
        (crowdedRun_crowded attests (by omega)).succeeds bound ⟨2⟩
      have recorded := (attest_step_iff.mp ⟨succeeded, rfl⟩).2
      have advanced := recorded.wrote.advanced
      rw [reached_crowdedRun_succ]
      exact advanced.trans (congrArg (· + 1) (ih (by omega)))

end Crowded

/-- After 2^64 - 2 attests two attests for different subjects in the same ledger
do not commute: each succeeds if it comes first and aborts if it comes second. -/
theorem last_attests_do_not_commute :
    (attestFor ⟨3⟩).pair ≠ (attestFor ⟨4⟩).pair ∧
      ((attestFor ⟨4⟩).step sampleEnv).succeeds (reached (crowdedRun (2 ^ 64 - 2))) =
        true ∧
      ((attestFor ⟨4⟩).step sampleEnv).succeeds
          ((reached (crowdedRun (2 ^ 64 - 2))).step ((attestFor ⟨3⟩).step sampleEnv)) =
        false ∧
      ¬ Commutes (reached (crowdedRun (2 ^ 64 - 2))) ((attestFor ⟨3⟩).step sampleEnv)
          ((attestFor ⟨4⟩).step sampleEnv) := by
  have crowded := crowdedRun_crowded (2 ^ 64 - 2) (by unfold u64Max; omega)
  have room : 2 ^ 64 - 2 + 1 ≤ u64Max := by
    unfold u64Max
    omega
  have contended : Contended (reached (crowdedRun (2 ^ 64 - 2))) (attestFor ⟨3⟩)
      (attestFor ⟨4⟩) sampleEnv sampleEnv :=
    ⟨crowded.count, rfl, rfl, crowded.succeeds room ⟨3⟩, crowded.succeeds room ⟨4⟩⟩
  exact ⟨by decide, contended.secondSucceeds, contended.second_fails,
    contended.not_commutes⟩

end AnchorKit.Contract
