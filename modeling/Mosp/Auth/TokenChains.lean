import Mosp.Auth.Schema
import Mathlib.Data.List.Chain

/-!
# Chains of refresh tokens

The tokens of a session form one chain, from the newest to the first.  All but
the newest are revoked and name the token that replaced them.  A new session
starts a chain, a rotation puts a token in front, and a logout revokes the
newest.
-/

namespace Mosp.Auth

open Mosp.Data Mosp.Database

/-- `newer` took the place of `older`. -/
def Replaces (newer older : RefreshToken) : Prop :=
  older.replacedById = some newer.id ∧ older.revokedAt ≠ none

/-- The tokens of a session, the newest first. -/
structure ChainOf (table : Table RefreshToken) (sessionId : Id) (chain : List RefreshToken) :
    Prop where
  members : ∀ row, row ∈ chain ↔ row ∈ table ∧ row.sessionId = some sessionId
  nodup : chain.Nodup
  links : chain.IsChain Replaces
  newest : ∀ row rest, chain = row :: rest → row.replacedById = none

/-- The tokens of every session form a chain. -/
def Chained (table : Table RefreshToken) : Prop :=
  ∀ sessionId, ∃ chain, ChainOf table sessionId chain

/-- No token of the session is unrevoked. -/
def Ended (table : Table RefreshToken) (sessionId : Id) : Prop :=
  ∀ row ∈ table, row.sessionId = some sessionId → row.revokedAt ≠ none

/-- The session has a token. -/
def Begun (table : Table RefreshToken) (sessionId : Id) : Prop :=
  ∃ row ∈ table, row.sessionId = some sessionId

/-- What stays of a token: its session and its hash, and everything once it is revoked. -/
structure Ages (before after : RefreshToken) : Prop where
  session : after.sessionId = before.sessionId
  tokenHash : after.tokenHash = before.tokenHash
  revoked : before.revokedAt ≠ none → after = before

/-- How the table of tokens may develop. -/
structure Grows (before after : Table RefreshToken) : Prop where
  ages : ∀ id row, before.get? id = some row → ∃ later, after.get? id = some later ∧ Ages row later
  closed : ∀ sessionId, Begun before sessionId → Ended before sessionId →
    ∀ row ∈ after, row.sessionId = some sessionId → row ∈ before

theorem Ages.refl (row : RefreshToken) : Ages row row :=
  ⟨rfl, rfl, fun _ => rfl⟩

theorem Ages.trans {first second third : RefreshToken} (early : Ages first second)
    (late : Ages second third) : Ages first third := by
  constructor
  · exact late.session.trans early.session
  · exact late.tokenHash.trans early.tokenHash
  · intro revoked
    have same := early.revoked revoked
    exact (late.revoked (same ▸ revoked)).trans same

theorem Grows.refl (table : Table RefreshToken) : Grows table table :=
  ⟨fun _ row found => ⟨row, found, .refl row⟩, fun _ _ _ _ member _ => member⟩

/-- A session that has ended has ended for good. -/
theorem Grows.ended {before after : Table RefreshToken} (grows : Grows before after)
    {sessionId : Id} (begun : Begun before sessionId) (ended : Ended before sessionId) :
    Ended after sessionId := by
  intro row member session
  exact ended row (grows.closed sessionId begun ended row member session) session

theorem Grows.begun {before after : Table RefreshToken} (grows : Grows before after)
    {sessionId : Id} (begun : Begun before sessionId) : Begun after sessionId := by
  obtain ⟨row, member, session⟩ := begun
  obtain ⟨later, found, ages⟩ := grows.ages row.id row (Table.get?_some.mpr ⟨member, rfl⟩)
  exact ⟨later, (Table.get?_some.mp found).1, ages.session.trans session⟩

theorem Grows.trans {first second third : Table RefreshToken} (early : Grows first second)
    (late : Grows second third) : Grows first third := by
  constructor
  · intro id row found
    obtain ⟨middle, foundMiddle, agesEarly⟩ := early.ages id row found
    obtain ⟨last, foundLast, agesLate⟩ := late.ages id middle foundMiddle
    exact ⟨last, foundLast, agesEarly.trans agesLate⟩
  · intro sessionId begun ended row member session
    have between := late.closed sessionId (early.begun begun) (early.ended begun ended) row member
      session
    exact early.closed sessionId begun ended row between session

/-! ## What a chain says -/

/-- A token behind the newest was replaced. -/
theorem replaced_of_mem_tail {first row : RefreshToken} {rest : List RefreshToken}
    (links : (first :: rest).IsChain Replaces) (member : row ∈ rest) :
    ∃ newer ∈ first :: rest, Replaces newer row := by
  induction rest generalizing first with
  | nil => contradiction
  | cons second rest ih =>
      obtain ⟨link, links⟩ := List.isChain_cons_cons.mp links
      rcases List.mem_cons.mp member with rfl | later
      · exact ⟨first, List.mem_cons_self, link⟩
      · obtain ⟨newer, inside, replaces⟩ := ih links later
        exact ⟨newer, List.mem_cons_of_mem _ inside, replaces⟩

theorem ChainOf.unrevoked {table : Table RefreshToken} {sessionId : Id}
    {chain : List RefreshToken} (of : ChainOf table sessionId chain) {row : RefreshToken}
    (member : row ∈ chain) (live : row.revokedAt = none) : ∃ rest, chain = row :: rest := by
  cases chain with
  | nil => contradiction
  | cons first rest =>
      rcases List.mem_cons.mp member with rfl | behind
      · exact ⟨rest, rfl⟩
      · obtain ⟨_, _, _, revoked⟩ := replaced_of_mem_tail of.links behind
        exact absurd live revoked

/-- The tokens behind the newest are other rows. -/
theorem ChainOf.behind {table : Table RefreshToken} {sessionId : Id} {newest : RefreshToken}
    {rest : List RefreshToken} (of : ChainOf table sessionId (newest :: rest)) :
    ∀ older ∈ rest, older ∈ table ∧ older.id ≠ newest.id := by
  intro older member
  have inTable := ((of.members older).mp (List.mem_cons_of_mem _ member)).1
  refine ⟨inTable, fun same => ?_⟩
  have newestMem := ((of.members newest).mp List.mem_cons_self).1
  obtain rfl := Table.eq_of_id_eq inTable newestMem same
  exact (List.nodup_cons.mp of.nodup).1 member

/-- A session has at most one unrevoked token. -/
theorem Chained.unrevoked_unique {table : Table RefreshToken} (chained : Chained table)
    {first second : RefreshToken} (firstMem : first ∈ table) (secondMem : second ∈ table)
    {sessionId : Id} (firstSession : first.sessionId = some sessionId)
    (secondSession : second.sessionId = some sessionId) (firstLive : first.revokedAt = none)
    (secondLive : second.revokedAt = none) : first = second := by
  obtain ⟨chain, of⟩ := chained sessionId
  obtain ⟨_, firstEq⟩ := of.unrevoked ((of.members first).mpr ⟨firstMem, firstSession⟩) firstLive
  obtain ⟨_, secondEq⟩ :=
    of.unrevoked ((of.members second).mpr ⟨secondMem, secondSession⟩) secondLive
  exact (List.cons.inj (firstEq.symm.trans secondEq)).1

/-! ## A new session -/

section

variable {table : Table RefreshToken} {row : RefreshToken} {sessionId : Id}

theorem mem_put_new (fresh : table.get? row.id = none) {other : RefreshToken} :
    other ∈ table.put row ↔ other = row ∨ other ∈ table := by
  rw [Table.mem_put]
  constructor
  · exact fun member => member.imp_right And.left
  · exact fun member => member.imp_right fun old => ⟨old, Table.get?_none.mp fresh other old⟩

theorem Chained.put_new (chained : Chained table) (fresh : table.get? row.id = none)
    (session : row.sessionId = some sessionId)
    (unused : ∀ other ∈ table, other.sessionId ≠ some sessionId)
    (unreplaced : row.replacedById = none) : Chained (table.put row) := by
  intro other
  by_cases same : other = sessionId
  · subst same
    refine ⟨[row], ?_, List.nodup_singleton row, List.isChain_singleton row, ?_⟩
    · intro candidate
      rw [List.mem_singleton, mem_put_new fresh]
      constructor
      · rintro rfl
        exact ⟨.inl rfl, session⟩
      · rintro ⟨rfl | old, ofSession⟩
        · rfl
        · exact absurd ofSession (unused candidate old)
    · intro first rest chainEq
      obtain ⟨rfl, _⟩ := List.cons.inj chainEq
      exact unreplaced
  · obtain ⟨chain, of⟩ := chained other
    refine ⟨chain, ?_, of.nodup, of.links, of.newest⟩
    intro candidate
    rw [of.members, mem_put_new fresh]
    constructor
    · exact fun member => ⟨.inr member.1, member.2⟩
    · rintro ⟨rfl | old, ofSession⟩
      · exact absurd (Option.some.inj (ofSession.symm.trans session)) same
      · exact ⟨old, ofSession⟩

theorem Grows.put_new (fresh : table.get? row.id = none)
    (session : row.sessionId = some sessionId)
    (unused : ∀ other ∈ table, other.sessionId ≠ some sessionId) :
    Grows table (table.put row) := by
  constructor
  · intro id old found
    refine ⟨old, ?_, .refl old⟩
    rw [Table.get?_put_ne _ (fun same => ?_), found]
    rw [same, rowId_refreshToken, fresh] at found
    contradiction
  · rintro other ⟨old, oldMem, ofSession⟩ _ candidate member session'
    rcases (mem_put_new fresh).mp member with rfl | inTable
    · obtain rfl : sessionId = other := Option.some.inj (session.symm.trans session')
      exact absurd ofSession (unused old oldMem)
    · exact inTable

end

/-! ## A revocation -/

section

variable {table : Table RefreshToken} {old row : RefreshToken} {sessionId : Id}

/-- The newest token of a chain is written over. -/
theorem ChainOf.put_newest {rest : List RefreshToken}
    (of : ChainOf table sessionId (old :: rest)) (sameId : row.id = old.id)
    (session : row.sessionId = some sessionId) (unreplaced : row.replacedById = none)
    (linked : ∀ older ∈ rest, Replaces old older → Replaces row older) :
    ChainOf (table.put row) sessionId (row :: rest) := by
  have restOld := of.behind
  constructor
  · intro candidate
    rw [List.mem_cons, Table.mem_put]
    simp only [rowId_refreshToken, sameId]
    constructor
    · rintro (rfl | member)
      · exact ⟨.inl rfl, session⟩
      · exact ⟨.inr (restOld candidate member),
          ((of.members candidate).mp (List.mem_cons_of_mem _ member)).2⟩
    · rintro ⟨rfl | ⟨inTable, distinct⟩, ofSession⟩
      · exact .inl rfl
      · rcases List.mem_cons.mp ((of.members candidate).mpr ⟨inTable, ofSession⟩) with rfl | member
        · exact absurd rfl distinct
        · exact .inr member
  · rw [List.nodup_cons]
    exact ⟨fun member => (restOld row member).2 sameId, (List.nodup_cons.mp of.nodup).2⟩
  · cases rest with
    | nil => exact List.isChain_singleton row
    | cons second rest =>
        obtain ⟨link, links⟩ := List.isChain_cons_cons.mp of.links
        exact List.isChain_cons_cons.mpr ⟨linked second List.mem_cons_self link, links⟩
  · intro first others chainEq
    obtain ⟨rfl, _⟩ := List.cons.inj chainEq
    exact unreplaced

/-- Writing over a token leaves the chains of other sessions alone. -/
theorem ChainOf.put_other {other : Id} {chain : List RefreshToken}
    (of : ChainOf table other chain) (oldMem : old ∈ table) (sameId : row.id = old.id)
    (oldSession : old.sessionId ≠ some other) (session : row.sessionId ≠ some other) :
    ChainOf (table.put row) other chain := by
  refine ⟨fun candidate => ?_, of.nodup, of.links, of.newest⟩
  rw [of.members, Table.mem_put]
  simp only [rowId_refreshToken, sameId]
  constructor
  · rintro ⟨inTable, ofSession⟩
    refine ⟨.inr ⟨inTable, fun same => ?_⟩, ofSession⟩
    obtain rfl := Table.eq_of_id_eq inTable oldMem same
    exact oldSession ofSession
  · rintro ⟨rfl | ⟨inTable, _⟩, ofSession⟩
    · exact absurd ofSession session
    · exact ⟨inTable, ofSession⟩

/-- Revoke the newest token of a session. -/
theorem Chained.put_revoked (chained : Chained table) (oldMem : old ∈ table)
    (live : old.revokedAt = none) (now : Time) :
    Chained (table.put { old with revokedAt := some now }) := by
  intro other
  obtain ⟨chain, of⟩ := chained other
  by_cases same : old.sessionId = some other
  · obtain ⟨rest, rfl⟩ := of.unrevoked ((of.members old).mpr ⟨oldMem, same⟩) live
    exact ⟨_, of.put_newest rfl same (of.newest old rest rfl) fun _ _ replaces => replaces⟩
  · exact ⟨chain, of.put_other oldMem rfl same same⟩

/-- Write over an unrevoked token. -/
theorem Grows.put_live (oldMem : old ∈ table) (sameId : row.id = old.id)
    (session : row.sessionId = old.sessionId) (tokenHash : row.tokenHash = old.tokenHash)
    (live : old.revokedAt = none) : Grows table (table.put row) := by
  constructor
  · intro id first found
    by_cases same : id = row.id
    · subst same
      have isOld : first = old := by
        obtain ⟨member, firstId⟩ := Table.get?_some.mp found
        exact Table.eq_of_id_eq member oldMem (firstId.trans sameId)
      subst isOld
      exact ⟨row, Table.get?_put_self table row, session, tokenHash,
        fun revoked => absurd live revoked⟩
    · exact ⟨first, (Table.get?_put_ne _ same).trans found, .refl first⟩
  · intro other _ ended candidate member ofSession
    rcases Table.mem_put.mp member with rfl | ⟨inTable, _⟩
    · exact absurd live (ended old oldMem (session.symm.trans ofSession))
    · exact inTable

end

/-! ## A rotation -/

/-- Put a token in front of the newest one, and revoke that. -/
theorem Chained.rotate {table : Table RefreshToken} {current replacement : RefreshToken}
    {sessionId : Id} {now : Time} (chained : Chained table) (currentMem : current ∈ table)
    (session : current.sessionId = some sessionId) (live : current.revokedAt = none)
    (fresh : table.get? replacement.id = none)
    (sameSession : replacement.sessionId = some sessionId)
    (unreplaced : replacement.replacedById = none) :
    Chained ((table.put replacement).put
      { current with replacedById := some replacement.id, revokedAt := some now }) := by
  have distinct : replacement.id ≠ current.id := fun same =>
    Table.get?_none.mp fresh current currentMem same.symm
  intro other
  obtain ⟨chain, of⟩ := chained other
  by_cases same : current.sessionId = some other
  · obtain rfl : sessionId = other := Option.some.inj (session.symm.trans same)
    obtain ⟨rest, rfl⟩ := of.unrevoked ((of.members current).mpr ⟨currentMem, same⟩) live
    have restOld := of.behind
    refine ⟨replacement ::
      { current with replacedById := some replacement.id, revokedAt := some now } :: rest,
      fun candidate => ?_, ?_, ?_, ?_⟩
    · rw [List.mem_cons, List.mem_cons, Table.mem_put, mem_put_new fresh]
      constructor
      · rintro (rfl | rfl | member)
        · exact ⟨.inr ⟨.inl rfl, distinct⟩, sameSession⟩
        · exact ⟨.inl rfl, session⟩
        · obtain ⟨inTable, apart⟩ := restOld candidate member
          exact ⟨.inr ⟨.inr inTable, apart⟩,
            ((of.members candidate).mp (List.mem_cons_of_mem _ member)).2⟩
      · rintro ⟨rfl | ⟨rfl | inTable, apart⟩, ofSession⟩
        · exact .inr (.inl rfl)
        · exact .inl rfl
        · rcases List.mem_cons.mp ((of.members candidate).mpr ⟨inTable, ofSession⟩) with
            rfl | member
          · exact absurd rfl apart
          · exact .inr (.inr member)
    · have notIn : ∀ older ∈ rest, older ≠ replacement := by
        rintro older member rfl
        exact Table.get?_none.mp fresh older (restOld older member).1 rfl
      simp only [List.nodup_cons, List.mem_cons, not_or]
      refine ⟨⟨fun same => ?_, fun member => notIn _ member rfl⟩,
        fun member => (restOld _ member).2 rfl, (List.nodup_cons.mp of.nodup).2⟩
      have sameId := congrArg RefreshToken.id same
      exact distinct sameId
    · refine List.isChain_cons_cons.mpr ⟨⟨rfl, by simp⟩, ?_⟩
      cases rest with
      | nil => exact List.isChain_singleton _
      | cons second rest =>
          obtain ⟨link, links⟩ := List.isChain_cons_cons.mp of.links
          exact List.isChain_cons_cons.mpr ⟨link, links⟩
    · intro first others chainEq
      obtain ⟨rfl, _⟩ := List.cons.inj chainEq
      exact unreplaced
  · refine ⟨chain, fun candidate => ?_, of.nodup, of.links, of.newest⟩
    rw [of.members, Table.mem_put, mem_put_new fresh]
    constructor
    · rintro ⟨inTable, ofSession⟩
      refine ⟨.inr ⟨.inr inTable, fun sameId => ?_⟩, ofSession⟩
      obtain rfl := Table.eq_of_id_eq inTable currentMem sameId
      exact same ofSession
    · rintro ⟨rfl | ⟨rfl | inTable, _⟩, ofSession⟩
      · exact absurd ofSession same
      · exact absurd (session.trans (sameSession.symm.trans ofSession)) same
      · exact ⟨inTable, ofSession⟩

theorem Grows.rotate {table : Table RefreshToken} {current replacement : RefreshToken}
    {sessionId : Id} {now : Time} (currentMem : current ∈ table)
    (session : current.sessionId = some sessionId) (live : current.revokedAt = none)
    (fresh : table.get? replacement.id = none)
    (sameSession : replacement.sessionId = some sessionId) :
    Grows table ((table.put replacement).put
      { current with replacedById := some replacement.id, revokedAt := some now }) := by
  constructor
  · intro id row found
    obtain ⟨member, rfl⟩ := Table.get?_some.mp found
    by_cases same : row = current
    · subst same
      exact ⟨_, Table.get?_put_self _ _, rfl, rfl, fun revoked => absurd live revoked⟩
    · refine ⟨row, Table.get?_some.mpr ⟨Table.mem_put.mpr (.inr ⟨?_, ?_⟩), rfl⟩, .refl row⟩
      · exact (mem_put_new fresh).mpr (.inr member)
      · exact fun sameId => same (Table.eq_of_id_eq member currentMem sameId)
  · intro other _ ended candidate member ofSession
    rcases Table.mem_put.mp member with rfl | ⟨member, _⟩
    · exact absurd live (ended current currentMem ofSession)
    · rcases (mem_put_new fresh).mp member with rfl | inTable
      · have currentSession : current.sessionId = some other :=
          session.trans (sameSession.symm.trans ofSession)
        exact absurd live (ended current currentMem currentSession)
      · exact inTable

end Mosp.Auth
