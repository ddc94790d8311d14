import WorkPool.Proofs.IdPartition

/-!
# The ranks of a run that fits

The number of ranks of a run has to fit a word. Then the servers are listed once each and in
order, every worker has a home among them, and it is attached there. If the number of servers
also fits a signed word, every datum has an owner among them.
-/

namespace WorkPool

/-- What is sorted by rank is in ascending order of rank. -/
theorem pairwise_mergeSort_rank {α : Type} (rank : α → Rank) (l : List α) :
    (l.mergeSort fun a b => rank a ≤ rank b).Pairwise fun a b => rank a ≤ rank b := by
  have trans (a b c : α) (hab : decide (rank a ≤ rank b) = true)
      (hbc : decide (rank b ≤ rank c) = true) : decide (rank a ≤ rank c) = true := by
    simp only [decide_eq_true_eq] at *
    exact UInt64.le_trans hab hbc
  have total (a b : α) : (decide (rank a ≤ rank b) || decide (rank b ≤ rank a)) = true := by
    simpa using UInt64.le_total (rank a) (rank b)
  exact (List.pairwise_mergeSort trans total l).imp of_decide_eq_true

namespace Topology

variable {t : Topology} {r : Rank}

/-- The number of ranks fits a word. -/
def Fits (t : Topology) : Prop := t.size < Checked.wordSize

/-- Servers have the ranks after those of the workers. -/
theorem isServer_iff : t.isServer r = true ↔ t.workers.toNat ≤ r.toNat ∧ r.toNat < t.size := by
  simp [isServer, contains, UInt64.le_iff_toNat_le]

theorem isWorker_iff : t.isWorker r = true ↔ r.toNat < t.workers.toNat := by
  simp [isWorker, UInt64.lt_iff_toNat_lt]

/-- No worker is a server. -/
theorem isServer_of_isWorker (h : t.isWorker r = true) : t.isServer r = false := by
  rw [← Bool.not_eq_true, isServer_iff]
  rw [isWorker_iff] at h
  omega

theorem contains_of_isServer (h : t.isServer r = true) : t.contains r = true :=
  (Bool.and_eq_true_iff.1 h).2

theorem contains_of_isWorker (h : t.isWorker r = true) : t.contains r = true := by
  rw [isWorker_iff] at h
  rw [contains, decide_eq_true_eq, size]
  omega

/-- Who is in the run and no server is a worker. -/
theorem isWorker_of_contains (h : t.contains r = true) (other : t.isServer r = false) :
    t.isWorker r = true := by
  rw [← Bool.not_eq_true, isServer_iff] at other
  rw [contains, decide_eq_true_eq] at h
  rw [isWorker_iff]
  omega

/-- Where the number of ranks fits a word, it suffices to tell servers. -/
theorem checkedIsServer_eq (fits : t.Fits) (r : Rank) :
    t.checkedIsServer r = .ok (t.isServer r) := by
  have size : t.checkedSize = .ok (t.workers + t.servers) := if_pos fits
  have total : (t.workers + t.servers).toNat = t.size := by
    rw [UInt64.toNat_add]
    exact Nat.mod_eq_of_lt fits
  unfold checkedIsServer
  split
  · rename_i above
    rw [checkedContains, size, isServer, contains, ← total]
    simp only [above, decide_true, Bool.true_and]
    exact congrArg Except.ok (decide_eq_decide.2 UInt64.lt_iff_toNat_lt)
  · rename_i below
    rw [isServer, decide_eq_false below]
    rfl

/-- The rank of a server, as a number. -/
theorem toNat_serverRank (fits : t.Fits) {index : UInt64} (h : index.toNat < t.servers.toNat) :
    (t.serverRank index).toNat = t.workers.toNat + index.toNat := by
  rw [serverRank, UInt64.toNat_add]
  refine Nat.mod_eq_of_lt ?_
  have bound : t.workers.toNat + t.servers.toNat < UInt64.size := fits
  rw [UInt64.size] at bound
  omega

/-- The rank of a server by its index is that of a server. -/
theorem isServer_serverRank (fits : t.Fits) {index : UInt64} (h : index.toNat < t.servers.toNat) :
    t.isServer (t.serverRank index) = true := by
  rw [isServer_iff, toNat_serverRank fits h, size]
  omega

/-- The ranks below a number. -/
theorem mem_ranksBelow {n : UInt64} : r ∈ ranksBelow n ↔ r.toNat < n.toNat := by
  simp only [ranksBelow, List.mem_map, List.mem_range]
  constructor
  · rintro ⟨i, hi, rfl⟩
    rw [UInt64.toNat_ofNat', Nat.mod_eq_of_lt (Nat.lt_trans hi n.toNat_lt_size)]
    exact hi
  · intro h
    exact ⟨r.toNat, h, UInt64.ofNat_toNat⟩

/-- The servers are listed. -/
theorem mem_serverRanks (fits : t.Fits) : r ∈ t.serverRanks ↔ t.isServer r = true := by
  rw [serverRanks, List.mem_map]
  constructor
  · rintro ⟨i, hi, rfl⟩
    exact isServer_serverRank fits (mem_ranksBelow.1 hi)
  · intro h
    rw [isServer_iff, size] at h
    have index : (r - t.workers).toNat = r.toNat - t.workers.toNat :=
      UInt64.toNat_sub_of_le _ _ (UInt64.le_iff_toNat_le.2 h.1)
    refine ⟨r - t.workers, mem_ranksBelow.2 (by omega), UInt64.toNat_inj.1 ?_⟩
    rw [toNat_serverRank fits (by omega)]
    omega

theorem ascending_ranksBelow (n : UInt64) : (ranksBelow n).Pairwise (· < ·) := by
  refine List.pairwise_map.2 (List.pairwise_lt_range.imp_of_mem fun {i j} hi hj hij => ?_)
  have bound {k : Nat} (hk : k ∈ List.range n.toNat) : k < UInt64.size :=
    Nat.lt_trans (List.mem_range.1 hk) n.toNat_lt_size
  rw [UInt64.lt_iff_toNat_lt, UInt64.toNat_ofNat', UInt64.toNat_ofNat',
    Nat.mod_eq_of_lt (bound hi), Nat.mod_eq_of_lt (bound hj)]
  exact hij

/-- The servers are listed in order. -/
theorem ascending_serverRanks (fits : t.Fits) : t.serverRanks.Pairwise (· < ·) := by
  refine List.pairwise_map.2 ((ascending_ranksBelow t.servers).imp_of_mem fun {i j} hi hj hij => ?_)
  rw [UInt64.lt_iff_toNat_lt] at hij ⊢
  rw [toNat_serverRank fits (mem_ranksBelow.1 hi), toNat_serverRank fits (mem_ranksBelow.1 hj)]
  omega

/-- The servers have distinct ranks. -/
theorem nodup_serverRanks (fits : t.Fits) : t.serverRanks.Nodup :=
  (ascending_serverRanks fits).imp UInt64.ne_of_lt

theorem length_serverRanks (t : Topology) : t.serverRanks.length = t.servers.toNat := by
  simp [serverRanks, ranksBelow]

/-- The master is a server. -/
theorem isServer_master (pos : 0 < t.servers.toNat) : t.isServer t.master = true := by
  rw [isServer_iff, master, size]
  omega

/-- **The home of a worker is a server.** -/
theorem isServer_homeServer (fits : t.Fits) (pos : 0 < t.servers.toNat) (w : Rank) :
    t.isServer (t.homeServer w) = true := by
  refine isServer_serverRank fits ?_
  rw [UInt64.toNat_mod]
  exact Nat.mod_lt _ pos

/-- A worker is attached to its home. -/
theorem mem_attached_homeServer {w : Rank} (h : t.isWorker w = true) :
    w ∈ t.attached (t.homeServer w) := by
  refine List.mem_filter.2 ⟨mem_ranksBelow.2 (isWorker_iff.1 h), ?_⟩
  rw [beq_iff_eq, serverIndex, homeServer, serverRank]
  rw [UInt64.add_comm, UInt64.add_sub_cancel]

/-- Only workers are attached to a server. -/
theorem isWorker_of_mem_attached {w : Rank} (h : w ∈ t.attached r) : t.isWorker w = true :=
  isWorker_iff.2 (mem_ranksBelow.1 (List.mem_filter.1 h).1)

/-- **A worker is attached to its home, and nowhere else.** -/
theorem mem_attached_iff {w : Rank} :
    w ∈ t.attached r ↔ t.isWorker w = true ∧ r = t.homeServer w := by
  constructor
  · intro h
    refine ⟨isWorker_of_mem_attached h, ?_⟩
    have index : w % t.servers = t.serverIndex r := by simpa using (List.mem_filter.1 h).2
    rw [homeServer, serverRank, index, serverIndex, UInt64.add_comm, UInt64.sub_add_cancel]
  · rintro ⟨worker, rfl⟩
    exact mem_attached_homeServer worker

/-- Where the number of ranks fits a word, adding the index of a server does as well. -/
theorem checkedServerRank_eq (fits : t.Fits) {index : UInt64}
    (h : index.toNat < t.servers.toNat) :
    t.checkedServerRank index = .ok (t.serverRank index) := by
  refine if_pos ?_
  rw [Fits, size] at fits
  omega

/-- Computing the home of a worker does not overflow. -/
theorem checkedHomeServer_eq (fits : t.Fits) (pos : 0 < t.servers.toNat) (w : Rank) :
    t.checkedHomeServer w = .ok (t.homeServer w) := by
  have some_servers : t.servers ≠ 0 := by
    rintro none
    rw [none] at pos
    exact Nat.lt_irrefl 0 pos
  rw [checkedHomeServer, Checked.rem, if_neg some_servers]
  refine checkedServerRank_eq fits ?_
  rw [UInt64.toNat_mod]
  exact Nat.mod_lt _ pos

/-- There are servers, and the numbers of ranks and of servers fit their words. -/
structure Proper (t : Topology) : Prop where
  fits : t.Fits
  served : 0 < t.servers.toNat
  signed : t.servers.toNat < Checked.wordSize / 2

theorem Proper.isServer_master (h : t.Proper) : t.isServer t.master = true :=
  Topology.isServer_master h.served

theorem Proper.servers_le_topId (h : t.Proper) : (t.servers.toNat : Int) ≤ topId := by
  have bound := h.signed
  rw [Checked.wordSize, UInt64.size] at bound
  rw [topId_eq]
  omega

/-- Every id is in the class of a server. -/
theorem exists_inClass (pos : 0 < t.servers.toNat) (id : DatumId) :
    ∃ i : UInt64, i.toNat < t.servers.toNat ∧ InClass t.servers i id := by
  have pos' : (0 : Int) < t.servers.toNat := Int.natCast_pos.2 pos
  have low := Int.emod_nonneg id.toInt (Int.ne_of_gt pos')
  have high := Int.emod_lt_of_pos id.toInt pos'
  have small : (id.toInt % t.servers.toNat).toNat < UInt64.size := by
    have := t.servers.toNat_lt_size
    omega
  have index : (UInt64.ofNat (id.toInt % t.servers.toNat).toNat).toNat =
      (id.toInt % t.servers.toNat).toNat := UInt64.toNat_ofNat_of_lt small
  refine ⟨UInt64.ofNat (id.toInt % t.servers.toNat).toNat, ?_, ?_⟩
  · rw [index]
    omega
  · rw [InClass, index, Int.toNat_of_nonneg low]

/-- The residue of an id is the index of a server. -/
theorem Proper.owner_index_lt (h : t.Proper) (id : DatumId) :
    (Int64.ofInt (id.toInt % t.servers.toInt64.toInt)).toUInt64.toNat < t.servers.toNat := by
  obtain ⟨i, below, inClass⟩ := exists_inClass h.served id
  have same := owner_of_inClass h.served h.servers_le_topId inClass
  rw [(UInt64.add_right_inj _).1 same]
  exact below

/-- The ids that a server owns are those of its class. -/
theorem Proper.inClass_of_owner (h : t.Proper) {id : DatumId} (own : t.owner id = r) :
    InClass t.servers (t.serverIndex r) id := by
  obtain ⟨i, -, inClass⟩ := exists_inClass h.served id
  have same := owner_of_inClass h.served h.servers_le_topId inClass
  have index : t.serverIndex r = i := by
    rw [serverIndex, ← own, same, serverRank, UInt64.add_comm, UInt64.add_sub_cancel]
  rwa [index]

/-- **The owner of a datum is a server**, whatever its id. -/
theorem Proper.isServer_owner (h : t.Proper) (id : DatumId) : t.isServer (t.owner id) = true :=
  isServer_serverRank h.fits (h.owner_index_lt id)

/-- Where the numbers fit their words, the owner of a datum is found. -/
theorem Proper.checkedOwner_eq (h : t.Proper) (id : DatumId) :
    t.checkedOwner id = .ok (t.owner id) := by
  have servers : t.servers.toInt64.toInt = t.servers.toNat := toInt_toInt64 h.servers_le_topId
  have pos := h.served
  have some_servers : t.servers.toInt64 ≠ 0 := by
    intro none
    rw [none] at servers
    have zero : (0 : Int64).toInt = 0 := rfl
    omega
  have positive : ¬ (id = Int64.minValue ∧ t.servers.toInt64.toInt = -1) := by omega
  rw [checkedOwner, Checked.residue, if_neg some_servers, if_neg positive]
  exact checkedServerRank_eq h.fits (h.owner_index_lt id)

/-- The index of a server is below their number. -/
theorem serverIndex_lt (server : t.isServer r = true) :
    t.serverIndex r < t.servers := by
  rw [isServer_iff, size] at server
  rw [UInt64.lt_iff_toNat_lt, serverIndex,
    UInt64.toNat_sub_of_le _ _ (UInt64.le_iff_toNat_le.2 server.1)]
  omega

end Topology

end WorkPool
