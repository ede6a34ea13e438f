import Mosp.Conduct.Transactions

/-!
# Removing objects under the contract

An object may be removed while nothing that could publish it is left: a session
that is given up, a location that no available record will be at any more, the
key a call has drawn for itself, or a record the call has claimed.
-/

namespace Mosp.Conduct

open Mosp.Concurrency Mosp.Data Mosp.Sql Mosp.Database Mosp.Index Mosp.Services Mosp.Worker
open Mosp.System hiding Action

/-- Nothing is left that needs the object under a key, once the claims of the
caller are gone. -/
structure Frees (scene : Scene) (caller : Nat) (disclaims : Prop) (key : PhysicalKey) : Prop where
  free : ∀ location ∈ scene.catalog.locations, location.physicalKey = key →
    (∀ record ∈ scene.catalog.records, record.activeObjectLocationId = some location.id →
      record.state ≠ .available) ∧
    ∀ i recordId, scene.Shows i (.deleting recordId location.id) → i = caller ∧ disclaims
  unverified : ∀ session ∈ scene.catalog.sessions, session.physicalKey = key →
    session.state = .initiated → ∀ i, ¬scene.Shows i (.verified session.id)
  own : ∀ i phase, i ≠ caller → scene.Shows i phase → keyOf phase ≠ some key

section

variable {mode : Mode} {scene : Scene} {caller : Nat} {phase : Phase}

/-- The object of a session that may be given up. -/
theorem frees_session {before : Observation} {session : UploadSession} {disclaims : Prop}
    (custody : Custody mode (sceneOf before)) (known : SessionKnown session (sceneOf before))
    (gives : MayGiveUp before session.id) :
    Frees (sceneOf before) caller disclaims session.physicalKey := by
  obtain ⟨⟨row, rowMem, sameId, open_⟩, unverified⟩ := gives
  have inCatalog : row ∈ (sceneOf before).catalog.sessions := rowMem
  have sameKey : row.physicalKey = session.physicalKey :=
    (congrArg UploadSession.physicalKey (known.terms row inCatalog sameId) :)
  constructor
  · intro location member key
    exact absurd
      (custody.apart.published row inCatalog location member (sameKey.trans key.symm)).1 open_
  · intro other member key _ i shown
    have same : row.id = other.id :=
      custody.apart.session row inCatalog other member (sameKey.trans key.symm)
    rw [← same, sameId] at shown
    exact unverified i shown
  · intro i phase _ shown drew
    exact (custody.apart.unpublished i phase _ shown drew).1 row inCatalog sameKey

/-- The object of a location that no available record will be at any more. -/
theorem frees_doomed {location : ObjectLocation} {disclaims : Prop} (custody : Custody mode scene)
    (doomed : Doomed location scene) : Frees scene caller disclaims location.physicalKey := by
  obtain ⟨row, rowMem, terms⟩ := doomed.located
  have sameId : row.id = location.id := (congrArg ObjectLocation.id terms :)
  have sameKey : row.physicalKey = location.physicalKey :=
    (congrArg ObjectLocation.physicalKey terms :)
  constructor
  · intro other member key
    have same : other.id = location.id :=
      (custody.apart.location other member row rowMem (key.trans sameKey.symm)).trans sameId
    rw [same]
    exact ⟨doomed.unavailable, fun i recordId shown => absurd shown (doomed.unclaimed i recordId)⟩
  · intro session member key open_ i _
    have completed := (custody.apart.published session member row rowMem (key.trans sameKey.symm)).1
    rw [open_] at completed
    contradiction
  · intro i phase _ shown drew
    exact (custody.apart.unpublished i phase _ shown drew).2 row rowMem sameKey

/-- The object under the key that the call has drawn for itself. -/
theorem frees_own {key : PhysicalKey} {disclaims : Prop} (custody : Custody mode scene)
    (shown : scene.Shows caller phase) (drew : keyOf phase = some key) :
    Frees scene caller disclaims key := by
  obtain ⟨noSession, noLocation⟩ := custody.apart.unpublished caller phase key shown drew
  constructor
  · exact fun location member sameKey => absurd sameKey (noLocation location member)
  · exact fun session member sameKey => absurd sameKey (noSession session member)
  · intro i other apart shownOther drewOther
    exact apart (custody.apart.call i caller other phase key shownOther shown drewOther drew)

/-- The object of the record that the call has claimed, when it gives up the claim. -/
theorem frees_claimed {recordId : Id} {location : ObjectLocation} {disclaims : Prop}
    (gives : disclaims) (sound : Sound mode scene)
    (custody : Custody mode scene) (located : LocationKnown location scene)
    (shown : scene.Shows caller (.deleting recordId location.id)) :
    Frees scene caller disclaims location.physicalKey := by
  obtain ⟨row, rowMem, terms⟩ := located
  have sameId : row.id = location.id := (congrArg ObjectLocation.id terms :)
  have sameKey : row.physicalKey = location.physicalKey :=
    (congrArg ObjectLocation.physicalKey terms :)
  obtain ⟨_, record, recordMem, recordId_, deleting, pointer, _⟩ :=
    custody.claimed caller recordId location.id shown
  have onlyRecord : ∀ other ∈ scene.catalog.records,
      other.activeObjectLocationId = some location.id → other = record :=
    fun other otherMem otherAt =>
      sound.consistent.pointer_unique otherMem recordMem otherAt pointer
  constructor
  · intro other member key
    have same : other.id = location.id :=
      (custody.apart.location other member row rowMem (key.trans sameKey.symm)).trans sameId
    rw [same]
    constructor
    · intro holder holderMem holderAt available
      rw [onlyRecord holder holderMem holderAt, deleting] at available
      contradiction
    · intro i otherRecord shownOther
      obtain ⟨_, other, otherMem, otherId, _, otherAt, _⟩ :=
        custody.claimed i otherRecord location.id shownOther
      rw [onlyRecord other otherMem otherAt, recordId_] at otherId
      subst otherId
      exact ⟨custody.claimant i caller _ _ _ shownOther shown, gives⟩
  · intro session member key open_ i _
    have completed := (custody.apart.published session member row rowMem (key.trans sameKey.symm)).1
    rw [open_] at completed
    contradiction
  · intro i phase _ shown drew
    exact (custody.apart.unpublished i phase _ shown drew).2 row rowMem sameKey

end

/-! ## The rule -/

/-- What a note may say about the removal of an object: nothing, or that the call is
done. -/
def Dismisses (note : Except Failure Unit → Option Phase) : Prop :=
  ∀ outcome phase, note outcome = some phase → phase = .idle

namespace Conducts

variable {mode : Mode} {constraints : Db → Option Failure} {caller : Nat} {α β : Type}
  {phase : Phase} {known : Scene → Prop}

/-- The provider is asked to delete an object; what is known once it is gone. -/
theorem deleteObject {address : Address} {givenUp : Option Id} {gained : Scene → Prop}
    {note : Except Failure Unit → Option Phase} (dismisses : Dismisses note)
    (steady : Steady mode caller known) (lasting : Lasting mode known)
    (frees : ∀ before : Observation, (sceneOf before).Shows caller phase → known (sceneOf before) →
      Upheld mode (sceneOf before) → mode.careful →
      (∀ uploadId, givenUp = some uploadId → MayGiveUp before uploadId) →
      Frees (sceneOf before) caller ((note (.ok ())).isSome) address.physicalKey)
    (gains : ∀ before after : Scene, before.Shows caller phase → known before →
      Upheld mode before → Settles before after →
      after.Shows caller ((note (.ok ())).getD phase) → gained after) :
    Conducts mode constraints caller phase known
      ((provider (.deleteObject address givenUp)).noting note)
      (fun _ new scene => new = (note (.ok ())).getD phase ∧ known scene ∧ gained scene)
      (fun error new scene => new = (note (.error error)).getD phase ∧ known scene) := by
  unfold provider
  rw [noting_attempt]
  apply perform steady rfl
  intro before shown holds upheld considerate choice answer world ran
  obtain ⟨rfl, rfl⟩ := Prod.mk.inj ran
  have settles : ∀ outcome objects, Settles (sceneOf before)
      (sceneOf (before.answer caller (note outcome) { before.shared with objects })) :=
    fun outcome objects => settles_answer (dismisses outcome) rfl (Nat.le_refl _)
      ⟨phase, shown, heldBy_nonneg upheld.toSound shown⟩
  have others : ∀ outcome objects other, other ≠ caller → ∀ was, (sceneOf before).Shows other was →
      (sceneOf (before.answer caller (note outcome) { before.shared with objects })).Shows other
        was := by
    intro outcome objects other apart was shownOther
    have same := before.answer_phases_ne (note outcome)
      ({ before.shared with objects } : World) apart
    exact same.trans shownOther
  cases failure : choice.failure with
  | some error =>
      have step := (settles (.error error) before.shared.objects).step upheld
        (fun _ => ⟨none, (settles _ _).removes fun _ holds => holds⟩) (others _ _)
      refine ⟨step, known, lasting _ _ step.preserves holds, ?_⟩
      exact Conducts.throw fun scene holds => ⟨rfl, holds⟩
  | none =>
      have removes : mode.careful → Removes (sceneOf before)
          (sceneOf (before.answer caller (note (.ok ()))
            { before.shared with objects := before.shared.objects.remove address })) caller
          (some address.physicalKey) := by
        intro careful
        have freed := frees before shown holds upheld careful
          fun uploadId given => (considerate careful).givesUp uploadId given
        have claims : ∀ i recordId locationId,
            (sceneOf (before.answer caller (note (.ok ()))
              { before.shared with objects := before.shared.objects.remove address })).Shows i
                (.deleting recordId locationId) →
            (sceneOf before).Shows i (.deleting recordId locationId) ∧
              (i = caller → ¬(note (.ok ())).isSome) := by
          intro i recordId locationId shownAfter
          refine ⟨(settles (.ok ()) _).shown shownAfter (by simp [Inert]), ?_⟩
          rintro rfl noted
          obtain ⟨new, noteEq⟩ := Option.isSome_iff_exists.mp noted
          obtain rfl := dismisses _ _ noteEq
          have inside : i < before.phases.length := (List.getElem?_eq_some_iff.mp shown).1
          have idle : (sceneOf (before.answer i (note (.ok ()))
              { before.shared with objects := before.shared.objects.remove address })).Shows i
                .idle := by
            rw [noteEq]
            exact List.getElem?_set_self inside
          have same := idle.symm.trans shownAfter
          cases Option.some.inj same
        refine { settles (.ok ()) (before.shared.objects.remove address) with
          objects := ?_, free := ?_, unverified := ?_, own := ?_ }
        · intro other holds apart
          exact holds.remove fun same => apart (same ▸ rfl)
        · intro location member sameKey
          obtain ⟨unavailable, unclaimed⟩ := freed.free location member (Option.some.inj sameKey)
          refine ⟨unavailable, fun i recordId shownAfter => ?_⟩
          obtain ⟨was, keeps⟩ := claims i recordId location.id shownAfter
          obtain ⟨ofCaller, disclaims⟩ := unclaimed i recordId was
          exact keeps ofCaller disclaims
        · intro session member sameKey open_ i shownAfter
          apply freed.unverified session member (Option.some.inj sameKey) open_ i
          exact (settles (.ok ()) _).shown shownAfter (by simp [Inert])
        · intro i other apart shownOther
          exact .inr (freed.own i other apart shownOther)
      have settled := settles (.ok ()) (before.shared.objects.remove address)
      have step := settled.step upheld (fun careful => ⟨_, removes careful⟩) (others _ _)
      have showsNew : (sceneOf (before.answer caller (note (.ok ()))
          { before.shared with objects := before.shared.objects.remove address })).Shows caller
            ((note (.ok ())).getD phase) := by
        rw [sceneOf_answer shown]
        exact List.getElem?_set_self (List.getElem?_eq_some_iff.mp shown).1
      refine ⟨step, fun scene => known scene ∧ gained scene,
        ⟨lasting _ _ step.preserves holds, gains _ _ shown holds upheld settled showsNew⟩, ?_⟩
      exact Conducts.pure fun scene holds => ⟨rfl, holds⟩

/-- The provider is asked to delete an object; the phase stays. -/
theorem deleteObject_stays {address : Address} {givenUp : Option Id}
    (steady : Steady mode caller known) (lasting : Lasting mode known)
    (frees : ∀ before : Observation, (sceneOf before).Shows caller phase → known (sceneOf before) →
      Upheld mode (sceneOf before) → mode.careful →
      (∀ uploadId, givenUp = some uploadId → MayGiveUp before uploadId) →
      Frees (sceneOf before) caller False address.physicalKey) :
    Conducts mode constraints caller phase known (provider (.deleteObject address givenUp))
      (Stays phase fun _ => known) (Stays phase fun _ => known) := by
  have unnoted : (provider (.deleteObject address givenUp)).noting (fun _ => none) =
      (provider (.deleteObject address givenUp) : Service Unit) :=
    noting_attempt (.provider (.deleteObject address givenUp)) fun _ => none
  rw [← unnoted]
  have deletes : Conducts mode constraints caller phase known
      ((provider (.deleteObject address givenUp)).noting fun _ => none)
      (fun _ new scene => new = phase ∧ known scene ∧ True) (Stays phase fun _ => known) := by
    apply deleteObject _ steady lasting
    · intro before shown holds upheld careful gives
      have freed := frees before shown holds upheld careful gives
      exact ⟨fun location member key => ⟨(freed.free location member key).1,
        fun i recordId claim => absurd ((freed.free location member key).2 i recordId claim).2 id⟩,
        freed.unverified, freed.own⟩
    · exact fun _ _ _ _ _ _ _ => trivial
    · rintro _ _ ⟨⟩
  exact deletes.weaken (fun _ holds => holds) (fun _ _ _ ⟨same, holds, _⟩ => ⟨same, holds⟩)
    fun _ _ _ thrown => thrown

variable {adapter : S3ProviderAdapter} {bucketName : String}

/-- The object of a session that is given up. -/
theorem deletes_session {session : UploadSession} (lasting : Lasting mode known)
    (knows : ∀ scene, known scene → SessionKnown session scene) :
    Conducts mode constraints caller phase known
      (adapter.deleteObject bucketName session.physicalKey (some session.id))
      (Stays phase fun _ => known) (Stays phase fun _ => known) := by
  apply deleteObject_stays lasting.steady lasting
  intro before _ holds upheld careful gives
  exact frees_session (upheld.custody careful) (knows _ holds) (gives session.id rfl)

/-- The object at a location that no available record will be at any more. -/
theorem deletes_doomed {location : ObjectLocation} (lasting : Lasting mode known)
    (dooms : ∀ scene, known scene → mode.careful → Doomed location scene) :
    Conducts mode constraints caller phase known
      (adapter.deleteObject bucketName location.physicalKey)
      (Stays phase fun _ => known) (Stays phase fun _ => known) := by
  apply deleteObject_stays lasting.steady lasting
  intro before _ holds upheld careful _
  exact frees_doomed (upheld.custody careful) (dooms _ holds careful)

/-- The object under a key that the call has drawn. -/
theorem deletes_own {key : PhysicalKey} (drew : keyOf phase = some key)
    (lasting : Lasting mode known) :
    Conducts mode constraints caller phase known (adapter.deleteObject bucketName key)
      (Stays phase fun _ => known) (Stays phase fun _ => known) := by
  apply deleteObject_stays lasting.steady lasting
  intro before shown _ upheld careful _
  exact frees_own (upheld.custody careful) shown drew

end Conducts

end Mosp.Conduct
