import SqlAssembly.Driver.Scripted
import SqlAssembly.Proofs.Session.Programs
import SqlAssembly.Proofs.Session.Steps

/-! Every transaction ends at most once, and exactly once when its last handle is gone. The
invariant ties three things that change at different moments: the flag of a transaction, the
number of its handles, and what the journal tells of it.
-/

namespace SqlAssembly

variable {γ δ : Type}

-----------------------------------------------------------------------------------------
-- Records of transactions
-----------------------------------------------------------------------------------------

namespace Session

/-- The ids of the transactions begun so far. -/
def ids (s : Session δ) : List TransactionId :=
  s.transactions.map (·.id)

/-- Every begin so far returned an id of its own. -/
def Distinct (s : Session δ) : Prop :=
  s.ids.Nodup

/-- A known id has a record. -/
theorem transaction?_of_known {s : Session δ} {id : TransactionId} (known : id ∈ s.ids)
    : ∃ t, s.transaction? id = some t := by
  obtain ⟨t, member, same⟩ := List.mem_map.mp known
  refine Option.isSome_iff_exists.mp ?_
  rw [Session.transaction?, List.find?_isSome]
  exact ⟨t, member, by simp [same]⟩

/-- Distinct ids name distinct records. -/
theorem Distinct.eq {s : Session δ} (distinct : s.Distinct) {t r : Transaction}
    (first : t ∈ s.transactions) (second : r ∈ s.transactions) (same : t.id = r.id)
    : t = r :=
  List.inj_on_of_nodup_map distinct first second same

/-- Looking up the id of a record finds the record. -/
theorem Distinct.transaction? {s : Session δ} (distinct : s.Distinct) {t : Transaction}
    (member : t ∈ s.transactions)
    : s.transaction? t.id = some t := by
  obtain ⟨r, found⟩ := transaction?_of_known (List.mem_map_of_mem member)
  have same : r.id = t.id := by simpa using List.find?_some found
  rw [found, distinct.eq (List.mem_of_find?_eq_some found) member same]

theorem Distinct.isFinished {s : Session δ} (distinct : s.Distinct) {t : Transaction}
    (member : t ∈ s.transactions)
    : s.isFinished t.id = t.finished := by
  rw [Session.isFinished, distinct.transaction? member]
  rfl

@[simp]
theorem ids_noting (s : Session δ) (d : δ) (entries : List Entry)
    : (s.noting d entries).ids = s.ids :=
  rfl

/-- Changing a record keeps the ids. -/
theorem ids_changing (s : Session δ) (id : TransactionId) (change : Transaction → Transaction)
    (keeps : ∀ t, (change t).id = t.id)
    : (s.changing id change).ids = s.ids := by
  simp only [ids, changing, List.map_map]
  refine List.map_congr_left fun t _ => ?_
  simp only [Function.comp_apply]
  split
  · exact keeps t
  · rfl

/-- A record after a change is the changed one or an untouched one of another id. -/
theorem Distinct.mem_changing {s : Session δ} (distinct : s.Distinct) {t r : Transaction}
    {change : Transaction → Transaction} (member : t ∈ s.transactions)
    (now : r ∈ (s.changing t.id change).transactions)
    : r = change t ∨ r ∈ s.transactions ∧ r.id ≠ t.id := by
  obtain ⟨old, was, rfl⟩ := List.mem_map.mp now
  by_cases hit : old.id = t.id
  · rw [if_pos (by simpa using hit), distinct.eq was member hit]
    exact Or.inl rfl
  · rw [if_neg (by simpa using hit)]
    exact Or.inr ⟨was, hit⟩

@[simp]
theorem ids_moreHandle (s : Session δ) (id : TransactionId) : (s.moreHandle id).ids = s.ids :=
  s.ids_changing id (fun t => { t with handles := t.handles + 1 }) fun _ => rfl

@[simp]
theorem ids_lessHandle (s : Session δ) (id : TransactionId) : (s.lessHandle id).ids = s.ids :=
  s.ids_changing id (fun t => { t with handles := t.handles - 1 }) fun _ => rfl

@[simp]
theorem ids_finishing (s : Session δ) (id : TransactionId) : (s.finishing id).ids = s.ids :=
  s.ids_changing id (fun t => { t with finished := true }) fun _ => rfl

/-- A change that leaves every record as it is. -/
@[simp]
theorem changing_same (s : Session δ) (id : TransactionId)
    : (s.changing id fun t => t) = s := by
  simp [changing]

@[simp]
theorem ids_begun (s : Session δ) (d : δ) (id : TransactionId)
    : (s.begun d id).ids = s.ids ++ [id] := by
  simp [ids, begun]

end Session

/-- Moves only add ids. -/
theorem Usage.Effect.ids_prefix [Driver δ] {u v : Usage δ} (effect : u.Effect v)
    : u.session.ids <+: v.session.ids := by
  cases effect with
  | @began s h id d => exact ⟨[id], (Session.ids_begun ..).symm⟩
  | noted | disturbed | cloned | dropped | abandoned | refused | committed | rolledBack => simp

-----------------------------------------------------------------------------------------
-- The invariant
-----------------------------------------------------------------------------------------

/-- How the record of a transaction shows that it ended, or that it did not. -/
def Transaction.Shows (t : Transaction) : Option Ending → Prop
  | none => t.finished = false ∧ t.handles ≠ 0
  | some .committed => t.finished = true
  | some .rolledBack => t.finished = true
  | some (.abandoned _) => t.finished = false ∧ t.handles = 0

/-- Records count the handles that are held, and the journal tells of each transaction what its
record shows.
-/
structure Usage.Sound (u : Usage δ) : Prop where
  counted : ∀ t ∈ u.session.transactions, t.handles = u.handles.count t.id
  known : ∀ id ∈ u.handles, id ∈ u.session.ids
  silent : ∀ id ∉ u.session.ids, u.session.journal.filter (Entry.concerns id) = []
  told
    : ∀ t ∈ u.session.transactions,
        ∃ ending, Tells t.id u.session.journal ending ∧ t.Shows ending

namespace Usage.Sound

variable {s : Session δ} {h : Multiset TransactionId}

theorem initial (d : δ) : (Usage.initial d).Sound where
  counted _ member := absurd member List.not_mem_nil
  known id held := absurd held (Multiset.notMem_zero id)
  silent _ _ := rfl
  told _ member := absurd member List.not_mem_nil

/-- Entries that concern no transaction keep the invariant. -/
theorem noted (sound : Sound ⟨s, h⟩) (d : δ) {entries : List Entry} (silent : Silent entries)
    : Sound ⟨s.noting d entries, h⟩ where
  counted := sound.counted
  known := sound.known
  silent id unknown := by simp [sound.silent id unknown, silent id]
  told t member := by
    obtain ⟨ending, tells, shows_⟩ := sound.told t member
    exact ⟨ending, tells.append (silent t.id), shows_⟩

/-- A transaction with a new id is open, and its first handle is held. -/
theorem began (sound : Sound ⟨s, h⟩) (d : δ) {id : TransactionId}
    (distinct : (s.begun d id).Distinct)
    : Sound ⟨s.begun d id, id ::ₘ h⟩ := by
  have fresh : id ∉ s.ids := by
    rw [Session.Distinct, Session.ids_begun, List.nodup_append] at distinct
    exact fun old => distinct.2.2 id old id (by simp) rfl
  have unheld : h.count id = 0 := Multiset.count_eq_zero.mpr fun held => fresh (sound.known id held)
  have silent (i : TransactionId)
      : ([.begin, .log (.transaction .began id)] : List Entry).filter (Entry.concerns i) = [] :=
    rfl
  refine ⟨fun t member => ?_, fun i held => ?_, fun i unknown => ?_, fun t member => ?_⟩
  · rcases List.mem_append.mp member with old | new
    · have other : t.id ≠ id := fun same => fresh (same ▸ List.mem_map_of_mem old)
      rw [Multiset.count_cons_of_ne other]
      exact sound.counted t old
    · rw [List.mem_singleton.mp new, Multiset.count_cons_self, unheld]
  · rw [Session.ids_begun]
    rcases Multiset.mem_cons.mp held with same | old
    · simp [same]
    · exact List.mem_append_left _ (sound.known i old)
  · rw [Session.ids_begun] at unknown
    have old := sound.silent i fun known => unknown (List.mem_append_left _ known)
    simp [Session.begun, old, silent i]
  · rcases List.mem_append.mp member with old | new
    · obtain ⟨ending, tells, shows_⟩ := sound.told t old
      exact ⟨ending, tells.append (silent _), shows_⟩
    · rw [List.mem_singleton.mp new]
      exact ⟨none, (Tells.of_silent (sound.silent id fresh)).append (silent id), rfl, by simp⟩

/-- A change of one transaction keeps the invariant when its handles, its record and its entries
agree afterwards and nothing else is touched.
-/
theorem changed (sound : Sound ⟨s, h⟩) (distinct : s.Distinct) {t : Transaction}
    (member : t ∈ s.transactions) (change : Transaction → Transaction)
    (keeps : ∀ r, (change r).id = r.id) (after : Multiset TransactionId)
    (others : ∀ i ≠ t.id, after.count i = h.count i)
    (counted : (change t).handles = after.count t.id) (d : δ) (entries : List Entry)
    (elsewhere : ∀ i ≠ t.id, entries.filter (Entry.concerns i) = [])
    (told : ∃ ending, Tells t.id (s.journal ++ entries) ending ∧ (change t).Shows ending)
    : Sound ⟨(s.noting d entries).changing t.id change, after⟩ := by
  have same : ((s.noting d entries).changing t.id change).ids = s.ids :=
    Session.ids_changing _ _ _ keeps
  have known : t.id ∈ s.ids := List.mem_map_of_mem member
  refine ⟨fun r now => ?_, fun i held => ?_, fun i unknown => ?_, fun r now => ?_⟩
  · rcases distinct.mem_changing member now with rfl | ⟨was, other⟩
    · rw [keeps]
      exact counted
    · exact (sound.counted r was).trans (others r.id other).symm
  · rw [same]
    by_cases hit : i = t.id
    · exact hit ▸ known
    · refine sound.known i (Multiset.count_pos.mp ?_)
      rw [← others i hit]
      exact Multiset.count_pos.mpr held
  · rw [same] at unknown
    have hit : i ≠ t.id := fun hit => unknown (hit ▸ known)
    simp [sound.silent i unknown, elsewhere i hit]
  · rcases distinct.mem_changing member now with rfl | ⟨was, other⟩
    · rw [keeps]
      exact told
    · obtain ⟨ending, tells, shows_⟩ := sound.told r was
      exact ⟨ending, tells.append (elsewhere r.id other), shows_⟩

/-- A held handle is one of a record. -/
theorem record (sound : Sound ⟨s, h⟩) {id : TransactionId} (held : id ∈ h)
    : ∃ t ∈ s.transactions, t.id = id :=
  List.mem_map.mp (sound.known id held)

/-- A transaction that is held and not finished has not ended. -/
theorem tells_open (sound : Sound ⟨s, h⟩) {t : Transaction} (member : t ∈ s.transactions)
    (held : t.id ∈ h) (unfinished : t.finished = false)
    : Tells t.id s.journal none := by
  have positive : t.handles ≠ 0 := by
    rw [sound.counted t member]
    exact Multiset.count_ne_zero.mpr held
  obtain ⟨ending, tells, shows_⟩ := sound.told t member
  rcases ending with _ | _ | _ | _
  · exact tells
  · simp [Transaction.Shows, unfinished] at shows_
  · simp [Transaction.Shows, unfinished] at shows_
  · exact absurd shows_.2 positive

/-- After a handle was given up, the look-up finds the record with one handle less. -/
theorem lessHandle_transaction? (distinct : s.Distinct) {t : Transaction}
    (member : t ∈ s.transactions)
    : (s.lessHandle t.id).transaction? t.id = some { t with handles := t.handles - 1 } := by
  have same : (s.lessHandle t.id).Distinct := by
    rw [Session.Distinct, Session.ids_lessHandle]
    exact distinct
  have changed : { t with handles := t.handles - 1 } ∈ (s.lessHandle t.id).transactions :=
    List.mem_map.mpr ⟨t, member, by simp⟩
  exact same.transaction? changed

/-- One more handle of a held transaction. -/
theorem cloned (sound : Sound ⟨s, h⟩) (distinct : s.Distinct) {t : Transaction}
    (member : t ∈ s.transactions) (held : t.id ∈ h)
    : Sound ⟨s.moreHandle t.id, t.id ::ₘ h⟩ := by
  obtain ⟨ending, tells, shows_⟩ := sound.told t member
  have positive : t.handles ≠ 0 := by
    rw [sound.counted t member]
    exact Multiset.count_ne_zero.mpr held
  have still : Transaction.Shows { t with handles := t.handles + 1 } ending := by
    rcases ending with _ | _ | _ | _
    · exact ⟨shows_.1, Nat.succ_ne_zero _⟩
    · exact shows_
    · exact shows_
    · exact absurd shows_.2 positive
  have changed := sound.changed distinct member (fun t => { t with handles := t.handles + 1 })
    (fun _ => rfl) (t.id ::ₘ h) (fun i other => Multiset.count_cons_of_ne other h)
    (by rw [Multiset.count_cons_self, sound.counted t member]) s.driver [] (fun _ _ => rfl)
    ⟨ending, tells.append rfl, still⟩
  rwa [Session.noting_nil] at changed

/-- A handle is given up, and what is noted agrees with the handles that are left. -/
theorem dropped (sound : Sound ⟨s, h⟩) (distinct : s.Distinct) {t : Transaction}
    (member : t ∈ s.transactions) (d : δ) (entries : List Entry)
    (elsewhere : ∀ i ≠ t.id, entries.filter (Entry.concerns i) = [])
    (told
      : ∃ ending,
          Tells t.id (s.journal ++ entries) ending
          ∧ Transaction.Shows { t with handles := t.handles - 1 } ending)
    : Sound ⟨(s.lessHandle t.id).noting d entries, h.erase t.id⟩ :=
  sound.changed distinct member (fun t => { t with handles := t.handles - 1 }) (fun _ => rfl)
    (h.erase t.id) (fun _ other => Multiset.count_erase_of_ne other h)
    (by rw [Multiset.count_erase_self, sound.counted t member]) d entries elsewhere told

/-- A held transaction that was open ends, and its flag is set. -/
theorem finished (sound : Sound ⟨s, h⟩) (distinct : s.Distinct) {t : Transaction}
    (member : t ∈ s.transactions) (held : t.id ∈ h) (unfinished : t.finished = false) (d : δ)
    (how : Ending) (shows_ : Transaction.Shows { t with finished := true } (some how))
    (entry : LogEntry) (quiet : ∀ i, Entry.concerns i (.log entry) = false)
    : Sound ⟨(s.noting d (how.entries t.id ++ [.log entry])).finishing t.id, h⟩ := by
  have silent (i : TransactionId) : [Entry.log entry].filter (Entry.concerns i) = [] := by
    simp [quiet]
  have tells := (sound.tells_open member held unfinished).finish how (silent t.id)
  exact sound.changed distinct member (fun t => { t with finished := true }) (fun _ => rfl) h
    (fun _ _ => rfl) (sound.counted t member) d (how.entries t.id ++ [.log entry])
    (fun i other => by simp [how.entries_elsewhere other, silent i]) ⟨some how, tells, shows_⟩

/-- Every effect keeps the invariant while ids stay distinct, by cases on the effect. -/
theorem effect [Driver δ] {u v : Usage δ} (sound : u.Sound) (effect : u.Effect v)
    (distinct : v.session.Distinct)
    : v.Sound := by
  have before : u.session.Distinct := distinct.sublist effect.ids_prefix.sublist
  cases effect with
  | noted silent => exact sound.noted _ silent
  | disturbed d => exact sound.noted d fun _ => rfl
  | began => exact sound.began _ distinct
  | cloned held =>
      obtain ⟨t, member, rfl⟩ := sound.record held
      exact sound.cloned before member held
  | @dropped s h id held kept =>
      obtain ⟨t, member, rfl⟩ := sound.record held
      obtain ⟨ending, tells, shows_⟩ := sound.told t member
      have left := kept _ (lessHandle_transaction? before member)
      have still : Transaction.Shows { t with handles := t.handles - 1 } ending := by
        rcases ending with _ | _ | _ | _
        · exact ⟨shows_.1, left.resolve_right (by simp [shows_.1])⟩
        · exact shows_
        · exact shows_
        · exact ⟨shows_.1, by simp [shows_.2]⟩
      have dropped := sound.dropped before member s.driver [] (fun _ _ => rfl)
        ⟨ending, tells.append rfl, still⟩
      rwa [← Session.noting_nil (s.lessHandle t.id)]
  | @abandoned s h id r held found last unfinished =>
      obtain ⟨t, member, rfl⟩ := sound.record held
      rw [lessHandle_transaction? before member] at found
      obtain rfl := Option.some.inj found
      have tells := (sound.tells_open member held unfinished).finish
        (.abandoned (Driver.release? t.id s.driver).isSome)
        (show [].filter (Entry.concerns t.id) = [] from rfl)
      rw [List.append_nil] at tells
      exact sound.dropped before member _ _
        (fun _ => Ending.entries_elsewhere (.abandoned _)) ⟨_, tells, unfinished, last⟩
  | @refused s h id error d held unfinished =>
      obtain ⟨t, member, rfl⟩ := sound.record held
      rw [before.isFinished member] at unfinished
      obtain ⟨ending, tells, shows_⟩ := sound.told t member
      have tells := (sound.tells_open member held unfinished).refuse
      have refused := sound.changed before member (fun t => t) (fun _ => rfl) h (fun _ _ => rfl)
        (sound.counted t member) d [.commit t.id false] ?_ ⟨none, tells, unfinished, ?_⟩
      · rwa [Session.changing_same] at refused
      · intro i other
        simp [Entry.concerns, Entry.asks, Entry.isAbandonment, other.symm]
      · rw [sound.counted t member]
        exact Multiset.count_ne_zero.mpr held
  | committed held unfinished =>
      obtain ⟨t, member, rfl⟩ := sound.record held
      rw [before.isFinished member] at unfinished
      exact sound.finished before member held unfinished _ .committed rfl _ fun _ => rfl
  | @rolledBack s h id answer d held unfinished =>
      obtain ⟨t, member, rfl⟩ := sound.record held
      rw [before.isFinished member] at unfinished
      refine sound.finished before member held unfinished d .rolledBack rfl _ fun _ => ?_
      cases answer <;> rfl

end Usage.Sound

end SqlAssembly
