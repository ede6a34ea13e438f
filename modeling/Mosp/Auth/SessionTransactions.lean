import Mosp.Auth.Rotation

/-!
# The session operations follow the protocol

One lemma for each transaction, in the order of the statements, and one for each
service.
-/

namespace Mosp.Auth

open Mosp.Concurrency Mosp.Data Mosp.Database Mosp.Sql
open Mosp.Sql.Protocol (Stands)
open PrismaAuthRepository AuthService

variable {watch : Option SessionWatch} {view : View Phase (State Db)} {self : Nat}

/-! ## Facts within a transaction -/

theorem stays_anything (locks : List Lock) : (sessions watch).Stays locks fun _ => True :=
  fun _ _ _ _ _ => trivial

/-- Giving up a transaction, if that shows nothing. -/
theorem abandons_silent {α : Type} {note : Except Failure α → Option Phase}
    {returns : Except Failure α → View Phase (State Db) → Prop} {phase : Phase}
    {fact : State Db → Prop} (silent : ∀ error, note (.error error) = none)
    (returned : ∀ error view, view.phases[self]? = some phase → returns (.error error) view) :
    (sessions watch).Abandons self note returns phase fact := by
  intro error view good stands
  rw [silent]
  refine ⟨SessionsKept.moves_quiet good rfl (Nat.le_refl _) nofun, ?_⟩
  exact returned error _ stands.phase

/-- The call is there. -/
def Somewhere {α : Type} (self : Nat) (_ : α) (view : View Phase (State Db)) : Prop :=
  ∃ phase, Stands self phase (fun _ => True) view

theorem abandons_somewhere {α : Type} {note : Except Failure α → Option Phase} {phase : Phase}
    {fact : State Db → Prop} (silent : ∀ error, note (.error error) = none) :
    (sessions watch).Abandons self note (Somewhere self) phase fact :=
  abandons_silent silent fun _ _ phaseAt => ⟨phase, phaseAt, trivial⟩

/-- A token that was read is there, and has aged. -/
def Aged (current : RefreshToken) (state : State Db) : Prop :=
  ∃ row, state.db.refreshToken.get? current.id = some row ∧ Ages current row

theorem stays_aged (locks : List Lock) (current : RefreshToken) :
    (sessions watch).Stays locks (Aged current) := by
  rintro before after develops _ ⟨row, found, ages⟩
  obtain ⟨later, foundLater, agesLater⟩ := develops.grows.ages current.id row found
  exact ⟨later, foundLater, ages.trans agesLater⟩

/-- A token whose lock is held stays as it is. -/
theorem stays_token {locks : List Lock} {row : RefreshToken}
    (held : Lock.refreshToken row.id ∈ locks) :
    (sessions watch).Stays locks fun state =>
      state.db.refreshToken.get? row.id = some row := by
  intro before after _ same found
  have unchanged : after.db.refreshToken.get? row.id = before.db.refreshToken.get? row.id :=
    same _ held
  exact unchanged.trans found

/-! ## Identifiers -/

/-- A call draws the identifier of a token. -/
theorem SessionsKept.draw_token (kept : SessionsKept watch view) {old noted : Phase}
    (phaseAt : view.phases[self]? = some old) (session : noted.session = old.session)
    (token : noted.token = some view.shared.nextId) (replacement : noted.replacement = none)
    (left : ∀ tokenHash, noted ≠ .left tokenHash)
    (admitted : ∀ sessionId, noted ≠ .admitted sessionId) :
    SessionsKept watch (view.answer self (some noted) view.shared.issue) := by
  have oldKept := kept.phases self old phaseAt
  refine kept.answer_same (by rfl) (Nat.le_succ _) ?_
  rintro phase ⟨⟩
  refine ⟨⟨?_, ?_, ?_⟩, ?_, ?_⟩
  · intro id own
    obtain ⟨below, unused⟩ := oldKept.session id (session ▸ own)
    exact ⟨Nat.lt_succ_of_lt below, unused⟩
  · intro id own
    obtain rfl := Option.some.inj (token.symm.trans own)
    refine ⟨Nat.lt_succ_self _, Table.get?_none.mpr fun row member => ?_⟩
    exact Nat.ne_of_lt (kept.tokens.tokenIds row member)
  · rintro tokenId replacementId rfl
    simp [Phase.replacement] at replacement
  · intro other second distinct secondAt
    have secondKept := kept.phases other second secondAt
    constructor
    · intro id own
      exact (kept.apart self other old second phaseAt secondAt distinct.symm).session id
        (session ▸ own)
    · intro id own theirs
      obtain rfl := Option.some.inj (token.symm.trans own)
      exact Nat.lt_irrefl _ (secondKept.token _ theirs).1
    · intro id own
      rw [replacement] at own
      contradiction
  · intro watched _
    cases watched with
    | token tokenId sessionId since => exact fun _ _ _ shown => absurd shown (left _)
    | ended sessionId since =>
        exact fun _ => admitted _

/-- A call draws the identifier of a session. -/
theorem SessionsKept.draw_session (kept : SessionsKept watch view) :
    SessionsKept watch
      (view.answer self (some (.issuing view.shared.nextId)) view.shared.issue) := by
  refine kept.answer_same (by rfl) (Nat.le_succ _) ?_
  rintro phase ⟨⟩
  refine ⟨⟨?_, by simp [Phase.token], by simp⟩, ?_, ?_⟩
  · intro id own
    obtain rfl : view.shared.nextId = id := by simpa [Phase.session] using own
    refine ⟨Nat.lt_succ_self _, fun row member session => ?_⟩
    exact Nat.lt_irrefl _ (kept.tokens.sessionIds row member _ session)
  · intro other second distinct secondAt
    refine ⟨?_, by simp [Phase.token], by simp [Phase.replacement]⟩
    intro id own theirs
    obtain rfl : view.shared.nextId = id := by simpa [Phase.session] using own
    exact Nat.lt_irrefl _ ((kept.phases other second secondAt).session _ theirs).1
  · intro watched _
    cases watched with
    | token tokenId sessionId since => exact fun _ _ _ shown => by simp at shown
    | ended sessionId since => exact fun _ => by simp

/-! ## Commits -/

/-- The first token of a session becomes visible. -/
theorem SessionsKept.opened (kept : SessionsKept watch view) {sessionId tokenId : Id}
    (phaseAt : view.phases[self]? = some (.opening sessionId tokenId)) {row : RefreshToken}
    (rowId : row.id = tokenId) (session : row.sessionId = some sessionId)
    (unreplaced : row.replacedById = none) {shared : State Db}
    (written : shared.db.refreshToken = view.shared.db.refreshToken.put row)
    (nextId : shared.nextId = view.shared.nextId) :
    TokensDevelop view.shared shared ∧ SessionsKept watch (view.answer self (some .idle) shared) := by
  subst rowId
  have own := kept.phases self _ phaseAt
  obtain ⟨sessionBelow, unused⟩ := own.session sessionId rfl
  obtain ⟨tokenBelow, fresh⟩ := own.token row.id rfl
  have develops : TokensDevelop view.shared shared :=
    ⟨written ▸ .put_new fresh session unused, nextId.ge⟩
  refine ⟨develops, kept.answer develops ?_ ?_ ?_⟩
  · constructor
    · intro other member
      rcases (mem_put_new fresh).mp (written ▸ member) with rfl | old
      · rw [session]
        exact Option.some_ne_none _
      · exact kept.tokens.sessioned other old
    · exact written ▸ kept.tokens.chained.put_new fresh session unused unreplaced
    · intro other member otherSession ofSession
      rw [nextId]
      rcases (mem_put_new fresh).mp (written ▸ member) with rfl | old
      · obtain rfl := Option.some.inj (session.symm.trans ofSession)
        exact sessionBelow
      · exact kept.tokens.sessionIds other old otherSession ofSession
    · intro other member
      rw [nextId]
      rcases (mem_put_new fresh).mp (written ▸ member) with rfl | old
      · exact tokenBelow
      · exact kept.tokens.tokenIds other old
  · intro other phase elsewhere otherAt
    have distinct : other ≠ self := fun same => Option.some_ne_none _ (elsewhere same)
    have apart := kept.apart self other _ phase phaseAt otherAt distinct.symm
    have otherKept := kept.phases other phase otherAt
    constructor
    · intro id theirs candidate member ofSession
      rcases (mem_put_new fresh).mp (written ▸ member) with rfl | old
      · obtain rfl := Option.some.inj (session.symm.trans ofSession)
        exact apart.session _ rfl theirs
      · exact (otherKept.session id theirs).2 candidate old ofSession
    · intro id theirs
      have free : id ≠ row.id := by
        rintro rfl
        exact apart.token row.id rfl theirs
      rw [written, Table.get?_put_ne _ free]
      exact (otherKept.token id theirs).2
  · rintro phase ⟨⟩
    exact ⟨quiet_idle.kept _, fun _ _ _ _ => quiet_idle.apart _, fun _ _ => quiet_idle.allows _ _ _⟩

/-- The replacement of a token becomes visible, and that the token is revoked. -/
theorem SessionsKept.rotated (kept : SessionsKept watch view) {current replacement : RefreshToken}
    {sessionId : Id} {now : Time}
    (phaseAt : view.phases[self]? = some (.replacing replacement.id))
    (found : view.shared.db.refreshToken.get? current.id = some current)
    (live : current.revokedAt = none) (session : current.sessionId = some sessionId)
    (sameSession : replacement.sessionId = some sessionId)
    (unreplaced : replacement.replacedById = none) {shared : State Db}
    (written : shared.db.refreshToken = (view.shared.db.refreshToken.put replacement).put
      { current with replacedById := some replacement.id, revokedAt := some now })
    (nextId : shared.nextId = view.shared.nextId) :
    TokensDevelop view.shared shared ∧
      SessionsKept watch
        (view.answer self (some (.rotated current.id replacement.id)) shared) := by
  have currentMem := (Table.get?_some.mp found).1
  obtain ⟨tokenBelow, fresh⟩ := (kept.phases self _ phaseAt).token replacement.id rfl
  have members : ∀ {row}, row ∈ shared.db.refreshToken → row = replacement ∨
      ∃ old ∈ view.shared.db.refreshToken, old.id = row.id ∧ old.sessionId = row.sessionId := by
    intro row member
    rcases Table.mem_put.mp (written ▸ member) with rfl | ⟨member, _⟩
    · exact .inr ⟨current, currentMem, rfl, rfl⟩
    · rcases (mem_put_new fresh).mp member with rfl | old
      · exact .inl rfl
      · exact .inr ⟨row, old, rfl, rfl⟩
  have distinct : replacement.id ≠ current.id := fun same =>
    Table.get?_none.mp fresh current currentMem same.symm
  have develops : TokensDevelop view.shared shared :=
    ⟨written ▸ .rotate currentMem session live fresh sameSession, nextId.ge⟩
  refine ⟨develops, kept.answer develops ?_ ?_ ?_⟩
  · constructor
    · intro row member
      rcases members member with rfl | ⟨old, oldMem, _, oldSession⟩
      · rw [sameSession]
        exact Option.some_ne_none _
      · exact oldSession ▸ kept.tokens.sessioned old oldMem
    · exact written ▸ kept.tokens.chained.rotate currentMem session live fresh sameSession unreplaced
    · intro row member id ofSession
      rw [nextId]
      rcases members member with rfl | ⟨old, oldMem, _, oldSession⟩
      · obtain rfl := Option.some.inj (sameSession.symm.trans ofSession)
        exact kept.tokens.sessionIds current currentMem _ session
      · exact kept.tokens.sessionIds old oldMem id (oldSession.trans ofSession)
    · intro row member
      rw [nextId]
      rcases members member with rfl | ⟨old, oldMem, oldId, _⟩
      · exact tokenBelow
      · exact oldId ▸ kept.tokens.tokenIds old oldMem
  · intro other phase elsewhere otherAt
    have distinct : other ≠ self := fun same => Option.some_ne_none _ (elsewhere same)
    have apart := kept.apart self other _ phase phaseAt otherAt distinct.symm
    have otherKept := kept.phases other phase otherAt
    constructor
    · intro id theirs row member ofSession
      have unused := (otherKept.session id theirs).2
      rcases members member with rfl | ⟨old, oldMem, _, oldSession⟩
      · exact unused current currentMem (session.trans (sameSession.symm.trans ofSession))
      · exact unused old oldMem (oldSession.trans ofSession)
    · intro id theirs
      refine Table.get?_none.mpr fun row member rowId => ?_
      subst rowId
      rcases members member with rfl | ⟨old, oldMem, oldId, _⟩
      · exact apart.token _ rfl theirs
      · exact Table.get?_none.mp (otherKept.token _ theirs).2 old oldMem oldId
  · rintro phase ⟨⟩
    have foundCurrent : shared.db.refreshToken.get? current.id = some
        { current with replacedById := some replacement.id, revokedAt := some now } := by
      rw [written]
      exact Table.get?_put_self _ _
    have foundReplacement : shared.db.refreshToken.get? replacement.id = some replacement := by
      rw [written, Table.get?_put_ne _ distinct]
      exact Table.get?_put_self _ _
    refine ⟨⟨by simp [Phase.session], by simp [Phase.token], ?_⟩, ?_, ?_⟩
    · rintro tokenId replacementId ⟨⟩
      exact ⟨⟨_, foundCurrent, by simp, rfl⟩, _, foundReplacement⟩
    · intro other second _ otherAt
      refine ⟨by simp [Phase.session], by simp [Phase.token], ?_⟩
      rintro id ⟨⟩ theirs
      cases second with
      | rotated tokenId replacementId =>
          obtain ⟨_, row, foundRow⟩ := (kept.phases other _ otherAt).rotated _ _ rfl
          obtain rfl : replacementId = replacement.id := by simpa [Phase.replacement] using theirs
          rw [fresh] at foundRow
          contradiction
      | _ => simp [Phase.replacement] at theirs
    · intro watched same
      cases watched with
      | token tokenId sessionId since => exact fun _ _ _ shown => by simp at shown
      | ended ended since => exact fun _ => by simp

/-! ## The transactions -/

variable {check : Db → Option Failure}
  {answer : {β : Type} → Elsewhere β → Unit → Nat → Unit → β × Unit}

/-- A query that shows nothing. -/
theorem transacts_query {α : Type} {value : Db → α} {phase : Phase} :
    (sessions watch).Transacts check answer self (fun _ => none)
      (fun _ => Stands self phase fun _ => True) phase [] [] (fun _ => True) (Sql.Tx.read value) := by
  have quiet : (sessions watch).Abandons self (fun _ : Except Failure α => none)
      (fun _ => Stands self phase fun _ => True) phase fun _ => True :=
    abandons_silent (fun _ => rfl) fun _ _ phaseAt => ⟨phaseAt, trivial⟩
  apply Protocol.Transacts.of_bind
  apply Protocol.Transacts.read (stays_anything _) quiet
  intro view _ _ _
  refine ⟨fun _ => True, trivial, ?_⟩
  apply Protocol.Transacts.pure (stays_anything _) quiet
  intro view good stands
  exact ⟨SessionsKept.moves_quiet good rfl (Nat.le_refl _) nofun, ⟨.refl _, Nat.le_refl _⟩,
    stands⟩

theorem transacts_createToken {input : CreateRefreshTokenInput} :
    (sessions watch).Transacts check answer self noteIssued (Somewhere self)
      (.issuing input.sessionId) [] [] (fun _ => True) (createTransaction input) := by
  have stays : ∀ locks, (sessions watch).Stays locks fun _ => True := stays_anything
  unfold createTransaction
  apply Protocol.Transacts.randomUUID (stays _)
  intro view good stands
  have drawn : SessionsKept watch (view.answer self
      (some (.opening input.sessionId view.shared.nextId)) view.shared.issue) :=
    SessionsKept.draw_token good stands.phase rfl rfl rfl (by simp) (by simp)
  refine ⟨drawn.moves (by simp), fun _ => True, trivial, ?_⟩
  generalize view.shared.nextId = id
  apply Protocol.Transacts.create (stays _) (abandons_somewhere fun _ => rfl)
  intro _ time _ _ _ created _
  refine ⟨fun _ => True, trivial, ?_⟩
  apply Protocol.Transacts.pure (stays _) (abandons_somewhere fun _ => rfl)
  intro view good stands
  have written : (view.shared.write ([] ++ [refreshToken.put created])).db.refreshToken =
      view.shared.db.refreshToken.put created := rfl
  obtain ⟨develops, kept⟩ := SessionsKept.opened good stands.phase rfl rfl rfl written rfl
  exact ⟨kept.moves (by simp), develops, _, Protocol.answer_phase stands.phase _ _, trivial⟩

theorem transacts_rotateToken {input : RotateRefreshTokenInput} :
    (sessions watch).Transacts check answer self noteRotated (Somewhere self) .idle [] []
      (fun _ => True) (PrismaAuthRepository.rotateTransaction input) := by
  have quiet : ∀ phase fact, (sessions watch).Abandons self noteRotated (Somewhere self) phase
      fact := fun _ _ => abandons_somewhere fun _ => rfl
  have stays : ∀ locks, (sessions watch).Stays locks fun _ => True := stays_anything
  unfold PrismaAuthRepository.rotateTransaction
  apply Protocol.Transacts.read (stays _) (quiet _ _)
  intro view good _ _
  split
  · exact ⟨fun _ => True, trivial, .throw (stays _) (quiet _ _) _⟩
  rename_i current found
  have aging : ∀ locks, (sessions watch).Stays locks (Aged current) := fun locks =>
    stays_aged locks current
  have here : Aged current view.shared :=
    ⟨current, Table.get?_some.mpr ⟨(Table.find?_some found).1, rfl⟩, .refl current⟩
  have sessioned := good.tokens.sessioned current (Table.find?_some found).1
  refine ⟨Aged current, here, ?_⟩
  apply Protocol.Transacts.findFirstOrThrow (aging _) (quiet _ _)
  intro view owner _ _ stands _
  refine ⟨Aged current, stands.fact, ?_⟩
  split
  · exact .throw (aging _) (quiet _ _) _
  obtain ⟨sessionId, session⟩ := Option.ne_none_iff_exists'.mp sessioned
  simp only [session, Option.elim_some]
  apply Protocol.Transacts.randomUUID (aging _)
  intro view good stands
  have drawn : SessionsKept watch (view.answer self
      (some (.replacing view.shared.nextId)) view.shared.issue) :=
    SessionsKept.draw_token good stands.phase rfl rfl rfl (by simp) (by simp)
  refine ⟨drawn.moves (by simp), Aged current, stands.fact, ?_⟩
  generalize view.shared.nextId = replacementId
  apply Protocol.Transacts.create (aging _) (quiet _ _)
  intro view time good _ stands replacement absent
  refine ⟨Aged current, stands.fact, ?_⟩
  apply Protocol.Transacts.updateMany (aging _) (quiet _ _)
  intro view time good _ stands rows writes
  have distinct : replacement.id ≠ current.id := by
    intro same
    obtain ⟨row, foundRow, _⟩ := stands.fact
    obtain ⟨_, fresh⟩ := (good.phases self _ stands.phase).token replacementId rfl
    have sameId : replacementId = current.id := same
    rw [sameId, foundRow] at fresh
    contradiction
  have selected : rows = [] ∨ ∃ row ∈ view.shared.db.refreshToken.put replacement,
      (row.id == current.id && row.revokedAt.isNone) = true ∧ rows = [row] :=
    Table.filter_byId fun row _ holds => (by simpa using holds : row.id = current.id ∧ _).1
  rcases selected with rowsEq | ⟨row, member, holds, rowsEq⟩
  · refine ⟨Aged current, stands.fact, ?_⟩
    simp only [rowsEq, List.length_nil]
    exact .throw (aging _) (quiet _ _) _
  · have matched : row.id = current.id ∧ row.revokedAt = none := by simpa using holds
    obtain ⟨rowId, live⟩ := matched
    have inTable : row ∈ view.shared.db.refreshToken := by
      rcases Table.mem_put.mp member with rfl | ⟨inTable, _⟩
      · exact absurd rowId distinct
      · exact inTable
    have foundRow : view.shared.db.refreshToken.get? row.id = some row :=
      Table.get?_some.mpr ⟨inTable, rfl⟩
    have rowSession : row.sessionId = some sessionId := by
      obtain ⟨later, foundLater, ages⟩ := stands.fact
      obtain rfl := Option.some.inj (foundRow.symm.trans (rowId ▸ foundLater))
      exact ages.session.trans session
    refine ⟨fun state => state.db.refreshToken.get? row.id = some row, foundRow, ?_⟩
    simp only [rowsEq, List.length_singleton, ne_eq, not_true_eq_false, if_false]
    have held : Lock.refreshToken row.id ∈ writes.flatMap (Sql.Database.locks Db) := by
      simp [writes, rowsEq, Db.locks]
    apply Protocol.Transacts.pure (stays_token (List.mem_append_right _ held)) (quiet _ _)
    intro view good stands
    have written : (view.shared.write ([] ++ [refreshToken.put replacement] ++ writes)).db.refreshToken =
        (view.shared.db.refreshToken.put replacement).put
          { row with replacedById := some replacement.id, revokedAt := some input.now } := by
      simp [writes, rowsEq, Db.write]
    obtain ⟨develops, kept⟩ := SessionsKept.rotated good stands.phase stands.fact live rowSession rfl
      rfl written rfl
    rw [rowId] at kept
    have moves := kept.moves fun tokenId replacementId noted other found => by
      obtain ⟨rfl, rfl⟩ := Phase.rotated.inj (Option.some.inj noted)
      rw [← rowId, stands.fact] at found
      exact Option.some.inj found ▸ live
    exact ⟨moves, develops, _, Protocol.answer_phase stands.phase _ _, trivial⟩

/-! ## Leaving -/

/-- Revoke some tokens. -/
def revokeAll (now : Time) (rows : List RefreshToken) (table : Table RefreshToken) :
    Table RefreshToken :=
  rows.foldl (fun table row => table.put { row with revokedAt := some now }) table

/-- What revoking unrevoked tokens does. -/
structure RevokedTokens (now : Time) (rows : List RefreshToken)
    (before after : Table RefreshToken) : Prop where
  chained : Chained after
  grows : Grows before after
  origin : ∀ row ∈ after, (row ∈ before ∧ row ∉ rows) ∨
    ∃ old ∈ rows, row = { old with revokedAt := some now }

theorem revokedTokens_revokeAll (now : Time) {rows : List RefreshToken}
    {table : Table RefreshToken} (chained : Chained table)
    (nodup : (rows.map RefreshToken.id).Nodup)
    (live : ∀ row ∈ rows, row ∈ table ∧ row.revokedAt = none) :
    RevokedTokens now rows table (revokeAll now rows table) := by
  induction rows generalizing table with
  | nil => exact ⟨chained, .refl table, fun row member => .inl ⟨member, List.not_mem_nil⟩⟩
  | cons first rest ih =>
      obtain ⟨⟨firstMem, firstLive⟩, others⟩ := List.forall_mem_cons.mp live
      rw [List.map_cons, List.nodup_cons] at nodup
      have apart : ∀ row ∈ rest, row.id ≠ first.id := fun row member same =>
        nodup.1 (same ▸ List.mem_map_of_mem member)
      obtain ⟨chainedRest, growsRest, origin⟩ := ih (chained.put_revoked firstMem firstLive now)
        nodup.2 fun row member =>
          ⟨Table.mem_put.mpr (.inr ⟨(others row member).1, apart row member⟩), (others row member).2⟩
      have grows : Grows table (table.put { first with revokedAt := some now }) :=
        .put_live firstMem rfl rfl rfl firstLive
      refine ⟨chainedRest, grows.trans growsRest, fun row member => ?_⟩
      rcases origin row member with ⟨inTable, notRest⟩ | ⟨old, oldMem, rfl⟩
      · rcases Table.mem_put.mp inTable with rfl | ⟨inTable, otherId⟩
        · exact .inr ⟨first, List.mem_cons_self, rfl⟩
        · refine .inl ⟨inTable, fun inRows => ?_⟩
          rcases List.mem_cons.mp inRows with rfl | inRest
          · exact otherId rfl
          · exact notRest inRest
      · exact .inr ⟨old, List.mem_cons_of_mem _ oldMem, rfl⟩

/-- Tokens that a logout revokes become visible as revoked. -/
theorem SessionsKept.left (kept : SessionsKept watch view) {tokenHash : String} {now : Time}
    {rows : List RefreshToken} (nodup : (rows.map RefreshToken.id).Nodup)
    (live : ∀ row ∈ rows, row ∈ view.shared.db.refreshToken ∧ row.revokedAt = none)
    (ends : ∀ tokenId sessionId since, watch = some (.token tokenId sessionId since) →
      ∀ row, view.shared.db.refreshToken.get? tokenId = some row → row.tokenHash = tokenHash →
        row ∈ rows ∨ Ended view.shared.db.refreshToken sessionId) {shared : State Db}
    (written : shared.db.refreshToken = revokeAll now rows view.shared.db.refreshToken)
    (nextId : shared.nextId = view.shared.nextId) :
    TokensDevelop view.shared shared ∧
      SessionsKept watch (view.answer self (some (.left tokenHash)) shared) := by
  obtain ⟨chained, grows, origin⟩ := written ▸ revokedTokens_revokeAll now kept.tokens.chained nodup live
  have develops : TokensDevelop view.shared shared := ⟨grows, nextId.ge⟩
  have older : ∀ {row}, row ∈ shared.db.refreshToken →
      ∃ old ∈ view.shared.db.refreshToken, old.id = row.id ∧ old.sessionId = row.sessionId := by
    intro row member
    rcases origin row member with ⟨old, _⟩ | ⟨old, oldMem, rfl⟩
    · exact ⟨row, old, rfl, rfl⟩
    · exact ⟨old, (live old oldMem).1, rfl, rfl⟩
  refine ⟨develops, kept.answer develops ?_ ?_ ?_⟩
  · constructor
    · intro row member
      obtain ⟨old, oldMem, _, session⟩ := older member
      exact session ▸ kept.tokens.sessioned old oldMem
    · exact chained
    · intro row member id ofSession
      obtain ⟨old, oldMem, _, session⟩ := older member
      exact nextId ▸ kept.tokens.sessionIds old oldMem id (session.trans ofSession)
    · intro row member
      obtain ⟨old, oldMem, sameId, _⟩ := older member
      exact nextId ▸ sameId ▸ kept.tokens.tokenIds old oldMem
  · intro other phase _ otherAt
    have otherKept := kept.phases other phase otherAt
    constructor
    · intro id theirs row member ofSession
      obtain ⟨old, oldMem, _, session⟩ := older member
      exact (otherKept.session id theirs).2 old oldMem (session.trans ofSession)
    · intro id theirs
      refine Table.get?_none.mpr fun row member rowId => ?_
      obtain ⟨old, oldMem, sameId, _⟩ := older member
      exact Table.get?_none.mp (otherKept.token id theirs).2 old oldMem (sameId.trans rowId)
  · rintro phase ⟨⟩
    refine ⟨⟨by simp [Phase.session], by simp [Phase.token], by simp⟩, ?_, ?_⟩
    · exact fun _ _ _ _ =>
        ⟨by simp [Phase.session], by simp [Phase.token], by simp [Phase.replacement]⟩
    · intro watched same
      cases watched with
      | ended sessionId since => exact fun _ => by simp
      | token tokenId sessionId since =>
          intro _ row foundRow shown
          obtain ⟨old, foundOld, session⟩ := kept.watched _ same
          obtain ⟨later, foundLater, ages⟩ := grows.ages tokenId old foundOld
          obtain rfl := Option.some.inj (foundLater.symm.trans foundRow)
          have hashes : old.tokenHash = tokenHash := by
            simpa [ages.tokenHash] using shown.symm
          have begun : Begun view.shared.db.refreshToken sessionId :=
            ⟨old, (Table.get?_some.mp foundOld).1, session⟩
          rcases ends tokenId sessionId since same old foundOld hashes with oldRows | ended
          · intro candidate member ofSession candidateLive
            -- An unrevoked token of the session was unrevoked before, so it is the one that
            -- this logout has revoked.
            rcases origin candidate member with ⟨inTable, notRows⟩ | ⟨other, _, rfl⟩
            · obtain ⟨oldMem, oldLive⟩ := live old oldRows
              obtain rfl := kept.tokens.chained.unrevoked_unique inTable oldMem ofSession session
                candidateLive oldLive
              exact notRows oldRows
            · simp at candidateLive
          · exact grows.ended begun ended

/-- What a logout knows once it has revoked some tokens. -/
structure Leaving (watch : Option SessionWatch) (tokenHash : String) (rows : List RefreshToken)
    (state : State Db) : Prop where
  held : ∀ row ∈ rows, state.db.refreshToken.get? row.id = some row
  ends : ∀ tokenId sessionId since, watch = some (.token tokenId sessionId since) →
    ∃ row, state.db.refreshToken.get? tokenId = some row ∧ row.sessionId = some sessionId ∧
      (row.tokenHash = tokenHash → row ∈ rows ∨ Ended state.db.refreshToken sessionId)

theorem stays_leaving {tokenHash : String} {rows : List RefreshToken} {locks : List Lock}
    (held : ∀ row ∈ rows, Lock.refreshToken row.id ∈ locks) :
    (sessions watch).Stays locks (Leaving watch tokenHash rows) := by
  intro before after develops same leaving
  have locked : ∀ row ∈ rows, after.db.refreshToken.get? row.id = some row := by
    intro row member
    have unchanged : after.db.refreshToken.get? row.id = before.db.refreshToken.get? row.id :=
      same _ (held row member)
    exact unchanged.trans (leaving.held row member)
  refine ⟨locked, fun tokenId sessionId since watching => ?_⟩
  obtain ⟨old, foundOld, session, ends⟩ := leaving.ends tokenId sessionId since watching
  obtain ⟨oldMem, oldId⟩ := Table.get?_some.mp foundOld
  obtain ⟨later, foundLater, ages⟩ := develops.grows.ages tokenId old foundOld
  refine ⟨later, foundLater, ages.session.trans session, fun hashes => ?_⟩
  rcases ends (ages.tokenHash ▸ hashes) with inRows | ended
  · have unchanged := locked old inRows
    rw [← rowId_refreshToken, oldId, foundLater] at unchanged
    exact .inl (Option.some.inj unchanged ▸ inRows)
  · exact .inr (develops.grows.ended ⟨old, oldMem, session⟩ ended)

/-- What the writes of a logout do to the table. -/
theorem refreshTokens_written (revokedAt : Time) (rows : List RefreshToken) (state : State Db) :
    (state.write (rows.map fun row =>
      Write.refreshToken { row with revokedAt := some revokedAt })).db.refreshToken =
      revokeAll revokedAt rows state.db.refreshToken := by
  simp only [State.write_db]
  generalize state.db = db
  induction rows generalizing db with
  | nil => rfl
  | cons row rest ih => exact ih (db.write (.refreshToken { row with revokedAt := some revokedAt }))

theorem transacts_revokeToken {tokenHash : String} {revokedAt : Time} :
    (sessions watch).Transacts check answer self (noteLeft tokenHash) (Somewhere self)
      (.leaving tokenHash) [] [] (fun _ => True)
      (refreshToken.updateMany (fun row => row.tokenHash == tokenHash && row.revokedAt.isNone)
        fun row => { row with revokedAt := some revokedAt }) := by
  have quiet : ∀ fact, (sessions watch).Abandons self (noteLeft tokenHash) (Somewhere self)
      (.leaving tokenHash) fact := fun _ => abandons_somewhere fun _ => rfl
  apply Protocol.Transacts.of_bind
  apply Protocol.Transacts.updateMany (stays_anything _) (quiet _)
  intro view time good permits stands rows writes
  have live : ∀ row ∈ rows, row ∈ view.shared.db.refreshToken ∧
      row.tokenHash = tokenHash ∧ row.revokedAt = none := by
    intro row member
    obtain ⟨inTable, holds⟩ := Table.mem_filter.mp member
    exact ⟨inTable, by simpa using holds⟩
  have leaving : Leaving watch tokenHash rows view.shared := by
    constructor
    · exact fun row member => Table.get?_some.mpr ⟨(live row member).1, rfl⟩
    · intro tokenId sessionId since watching
      obtain ⟨row, found, session⟩ := good.watched _ watching
      refine ⟨row, found, session, fun hashes => ?_⟩
      have inTable := (Table.get?_some.mp found).1
      have newest := permits tokenId sessionId since watching tokenHash stands.phase row inTable
        hashes
      rcases newest with unrevoked | ended
      · exact .inl (Table.mem_filter.mpr ⟨inTable, by simp [hashes, unrevoked]⟩)
      · exact .inr (ended sessionId session)
  refine ⟨Leaving watch tokenHash rows, leaving, ?_⟩
  have nodup : (rows.map RefreshToken.id).Nodup :=
    List.Nodup.sublist (List.Sublist.map _ List.filter_sublist) view.shared.db.refreshToken.nodup
  have held : ∀ row ∈ rows, Lock.refreshToken row.id ∈
      [] ++ writes.flatMap (Sql.Database.locks Db) := by
    intro row member
    rw [List.nil_append, List.mem_flatMap]
    exact ⟨_, List.mem_map_of_mem member, by simp [Db.locks]⟩
  apply Protocol.Transacts.pure (stays_leaving held) (quiet _)
  intro view good stands
  have written : (view.shared.write ([] ++ writes)).db.refreshToken =
      revokeAll revokedAt rows view.shared.db.refreshToken := refreshTokens_written _ _ _
  obtain ⟨develops, kept⟩ := SessionsKept.left good nodup
    (fun row member => ⟨(Table.get?_some.mp (stands.fact.held row member)).1, (live row member).2.2⟩)
    (fun tokenId sessionId since watching row found hashes => by
      obtain ⟨other, foundOther, _, ends⟩ := stands.fact.ends tokenId sessionId since watching
      obtain rfl := Option.some.inj (foundOther.symm.trans found)
      exact ends hashes) written rfl
  exact ⟨kept.moves (by simp), develops, _, Protocol.answer_phase stands.phase _ _, trivial⟩

/-! ## Asking -/

theorem transacts_active {sessionId userId : Id} {now : Time} :
    (sessions watch).Transacts check answer self (noteAdmitted sessionId) (Somewhere self)
      .idle [] [] (fun _ => True) (refreshToken.findFirst (keepsAlive sessionId userId now)) := by
  have quiet : (sessions watch).Abandons self (noteAdmitted sessionId) (Somewhere self) .idle
      fun _ => True := abandons_somewhere fun _ => rfl
  apply Protocol.Transacts.of_bind
  apply Protocol.Transacts.read (stays_anything _) quiet
  intro view good _ _
  refine ⟨fun _ => True, trivial, ?_⟩
  generalize foundEq : (refreshToken.table (view.shared.write []).db).find?
    (keepsAlive sessionId userId now) = found
  -- A session that is seen alive here has not ended.
  have alive : ∀ ended since, found.isSome → watch = some (.ended ended since) →
      sessionId ≠ ended := by
    rintro ended since some_ watching rfl
    obtain ⟨row, rfl⟩ := Option.isSome_iff_exists.mp some_
    obtain ⟨member, holds⟩ := Table.find?_some foundEq
    simp only [keepsAlive, Bool.and_eq_true, beq_iff_eq, Option.isNone_iff_eq_none] at holds
    exact (good.watched _ watching).2 row member holds.1.1.1 holds.1.2
  apply Protocol.Transacts.pure (stays_anything _) quiet
  intro view good stands
  refine ⟨?_, ⟨.refl _, Nat.le_refl _⟩, _, Protocol.answer_phase stands.phase _ _, trivial⟩
  cases found with
  | none => exact SessionsKept.moves_quiet good rfl (Nat.le_refl _) nofun
  | some row =>
      suffices kept : SessionsKept watch
          (view.answer self (some (.admitted sessionId)) (view.shared.write [])) from
        kept.moves (by simp)
      refine SessionsKept.answer_same good rfl (Nat.le_refl _) ?_
      rintro phase ⟨⟩
      refine ⟨⟨by simp [Phase.session], by simp [Phase.token], by simp⟩, fun _ _ _ _ =>
        ⟨by simp [Phase.session], by simp [Phase.token], by simp [Phase.replacement]⟩, ?_⟩
      intro watched same
      cases watched with
      | token tokenId watchedId since => exact fun _ _ _ shown => by simp at shown
      | ended ended since =>
          exact fun _ shown => alive ended since rfl same (Phase.admitted.inj shown)

end Mosp.Auth
