import KeramikStore.Users.UserLists

/-!
# The pages of the list of users

Each page of the list is a request of its own. It may be answered from an entry that some
other run has left, and users that were created at one time may stand in another order
there. The pages show each user that matches once just when no page ends between two such
users; what they say about the number of the pages is right in any case.
-/

set_option autoImplicit false

namespace KeramikStore.UserPages
open Library Library.Pages Library.PagedListing UserLists PrismaUserQueryRepository
open GetAllUsersUseCase
open BrowsingProductsUseCase (Describes IsPage)

def atPage (command : GetAllUsersCommand) (p : ℕ) : GetAllUsersCommand :=
  { command with page := some (.ofNat p) }

def matching (clause : UserWhere) (t : UsersTable) : List UserRow := t.rows.filter clause.matching

variable (dates : DateHost) (host : KeyHost) (command : GetAllUsersCommand) (clause : UserWhere)
  (t : UsersTable) (n : ℕ)

def PagesPartition : Prop :=
  ∀ (sort : ℕ → List UserRow → List UserRow) (stores : ℕ → UserListStore),
    (∀ p, SortsUsers (sort p)) →
    (∀ p, Reached dates host (stores p) ∧ (stores p).table = t) →
    ∃ results : ℕ → GetAllUsersResult,
      (∀ p < pageCount n (matching clause t).length,
        (execute (atPage command (p + 1)) dates host (sort p) (stores p)).1 = .ok (results p) ∧
          Describes (pageCount n (matching clause t).length) (p + 1) (results p).pagination) ∧
      ((List.range (pageCount n (matching clause t).length)).flatMap fun p =>
        (results p).users).Perm ((matching clause t).map fun row => shown dates row.listColumns)

def resultAt (q : ℕ) (arranged : List UserRow) : GetAllUsersResult where
  users := (page n q arranged).map fun row => shown dates row.listColumns
  pagination := pagination (atPage command (q + 1)) (.ofNat arranged.length)

theorem cold_reached : Reached dates host (.cold t) := 
  ⟨t, [], fun _ mem => absurd mem List.not_mem_nil, rfl⟩

theorem nodup_shown : ((matching clause t).map fun row => shown dates row.listColumns).Nodup := by
  have ids : (t.rows.map UserRow.id).Nodup := by
    rw [List.map_eq_flatMap]
    exact t.unique.id
  have kept : ((matching clause t).map UserRow.id).Nodup :=
    ids.sublist (List.filter_sublist.map _)
  apply List.Nodup.of_map UserItem.id
  rw [List.map_map]
  exact kept

theorem pageOf_atPage (q : ℕ) : pageOf (atPage command (q + 1)) = .ofNat (q + 1) :=
  JsNumber.orElse_of_given _ _ (JsNumber.given_ofNat_succ q)

variable (named : (options command).clause = some clause) (one : 1 ≤ n)
  (asked : limitOf command = .ofNat n) (number : Binary64.represent n = .fin n)
  (held : t.rows.length < 2 ^ 48)

include named in
theorem atPage_unforged (p : ℕ) : ¬ Forged (options (atPage command p)) := by
  rintro ⟨⟨role, status, spelled⟩, -, -⟩
  have unknown := clause_forged command role status spelled
  rw [named] at unknown
  exact absurd unknown (Option.some_ne_none _)

include held in
theorem few_matching : (matching clause t).length < 2 ^ 48 :=
  (List.length_filter_le _ _).trans_lt held

include named one asked number held

theorem answer_atPage (own : List UserRow → List UserRow) (sorts : SortsUsers own) (q : ℕ)
    (reached : q ≤ pageCount n (matching clause t).length) :
    answer (atPage command (q + 1)) dates own t =
      .ok (resultAt dates command n q (own (matching clause t))) := by
  have few := few_matching clause t held
  have length := (sorts (matching clause t)).length
  have page_given : (options (atPage command (q + 1))).pageOf = .ofNat (q + 1) := by
    unfold FindAllUsersQueryOptions.pageOf options
    dsimp only
    rw [pageOf_atPage]
    exact JsNumber.orElse_of_given _ _ (JsNumber.given_ofNat_succ q)
  have limit_given : (options (atPage command (q + 1))).limitOf = .ofNat n := by
    obtain ⟨k, rfl⟩ : ∃ k, n = k + 1 := ⟨n - 1, by omega⟩
    show JsNumber.orElse (.ofNat 10) (some (limitOf command)) = _
    rw [asked]
    exact JsNumber.orElse_of_given _ _ (JsNumber.given_ofNat_succ k)
  have window : (options (atPage command (q + 1))).rows own clause t =
      some (page n q (own (matching clause t))) := by
    unfold FindAllUsersQueryOptions.rows
    rw [page_given, limit_given]
    exact window_page one number _ q (length ▸ few) (length ▸ reached)
  have asked_for : queryUsers own (options (atPage command (q + 1))) t = .ok
      { users := (page n q (own (matching clause t))).map UserRow.listColumns
        total := (matching clause t).length } := by
    unfold queryUsers
    rw [show (options (atPage command (q + 1))).clause = some clause from named]
    dsimp only
    rw [window]
    rfl
  unfold answer resultAt
  rw [asked_for, length]
  show respond _ _ _ = _
  rw [respond_date, List.map_map]
  rfl

omit named held in
theorem describes_pagination (total q : ℕ) (few : total < 2 ^ 48)
    (reached : q ≤ pageCount n total) :
    Describes (pageCount n total) (q + 1) (pagination (atPage command (q + 1)) (.ofNat total)) := by
  have pages : totalPages (limitOf (atPage command (q + 1))) (.ofNat total) =
      .ofNat (pageCount n total) := by
    show totalPages (limitOf command) _ = _
    rw [asked]
    exact totalPages_count one number total (few.trans (by norm_num))
  have current := pageOf_atPage command q
  constructor
  · exact pages
  · show (pageOf (atPage command (q + 1))).lt (totalPages _ _) = true ↔ _
    rw [current, pages, JsNumber.ofNat_lt_ofNat, decide_eq_true_iff, IsPage]
    omega
  · show JsNumber.lt (.ofNat 1) (pageOf (atPage command (q + 1))) = true ↔ _
    rw [current, JsNumber.ofNat_lt_ofNat, decide_eq_true_iff, IsPage]
    omega

theorem execute_cold (sort : List UserRow → List UserRow) (sorts : SortsUsers sort) (q : ℕ)
    (reached : q ≤ pageCount n (matching clause t).length) :
    (execute (atPage command (q + 1)) dates host sort (.cold t)).1 =
      .ok (resultAt dates command n q (sort (matching clause t))) := by
  rw [← answer_atPage dates command clause t n named one asked number held sort sorts q reached]
  unfold execute answer findAllUsers
  show _ = queryUsers sort _ (UserListStore.cold t).table >>= _
  dsimp only [UserListStore.cold]
  cases queryUsers sort (options (atPage command (q + 1))) t <;> rfl

theorem pages_of_uncut (datesDocumented : dates.Documented) (documented : host.Documented)
    (uncut : Uncut newestFirst n (matching clause t)) :
    PagesPartition dates host command clause t n := by
  intro sort stores sorts reached
  have answered : ∀ p, ∃ own, SortsUsers own ∧
      (execute (atPage command (p + 1)) dates host (sort p) (stores p)).1 =
        answer (atPage command (p + 1)) dates own t := by
    intro p
    obtain ⟨run, table⟩ := reached p
    have by_table := honest_answer dates host datesDocumented (stores p)
      (reached_honest dates host documented (stores p) run) (sort p) (sorts p) _
      (atPage_unforged command clause named (p + 1))
    rwa [AnsweredByTable, table] at by_table
  choose own hown answers using answered
  refine ⟨fun p => resultAt dates command n p (own p (matching clause t)), ?_, ?_⟩
  · intro p within
    refine ⟨?_, ?_⟩
    · rw [answers p, answer_atPage dates command clause t n named one asked number held (own p)
        (hown p) p within.le]
    · have few := few_matching clause t held
      have described := describes_pagination command n one asked number (matching clause t).length
        p few within.le
      rw [← (hown p (matching clause t)).length] at described ⊢
      exact described
  · have each := pages_perm newestFirst_total one uncut (fun p => own p (matching clause t))
      fun p => hown p _
    have shown_each := each.map fun row => shown dates row.listColumns
    rwa [List.map_flatMap] at shown_each

theorem uncut_of_pages (partition : PagesPartition dates host command clause t n) :
    Uncut newestFirst n (matching clause t) := by
  apply uncut_of_nodup one newestFirst_total
  intro sort sorts
  -- each page is the first request of a run of its own
  obtain ⟨results, pages, perm⟩ := partition sort (fun _ => .cold t) sorts
    fun _ => ⟨cold_reached dates host t, rfl⟩
  have nodup := perm.nodup_iff.mpr (nodup_shown dates clause t)
  have same : ((List.range (pageCount n (matching clause t).length)).flatMap fun p =>
      (results p).users) = ((List.range (pageCount n (matching clause t).length)).flatMap fun p =>
        page n p (sort p (matching clause t))).map fun row => shown dates row.listColumns := by
    rw [List.map_flatMap]
    apply List.flatMap_congr
    intro p mem
    have within := List.mem_range.mp mem
    have cold := (pages p within).1
    rw [execute_cold dates host command clause t n named one asked number held (sort p) (sorts p) p
      within.le] at cold
    rw [← Except.ok.inj cold]
    rfl
  rw [same] at nodup
  exact nodup.of_map

/-- The pages show each matching user once, in every run and in every order that the database
may choose, just when no page ends between users that were created at one time. -/
theorem user_pages_partition_iff (datesDocumented : dates.Documented)
    (documented : host.Documented) :
    PagesPartition dates host command clause t n ↔ Uncut newestFirst n (matching clause t) :=
  ⟨uncut_of_pages dates host command clause t n named one asked number held,
    pages_of_uncut dates host command clause t n named one asked number held datesDocumented
      documented⟩

omit named one asked number held

def twoByTwo : GetAllUsersCommand where
  page := none
  limit := some (.ofNat 2)
  role := none
  status := none

def threeUsers : UsersTable where
  rows :=
    [UserRow.sample,
      { UserRow.sample with id := "twin", email := "twin@example.com", authProviders := [] },
      { UserRow.sample with
        id := "later", email := "later@example.com", authProviders := []
        createdAt := UserRow.sample.createdAt - 1 }]
  unique := by decide

theorem earlier_user_last : PagesPartition Calendar.host ProductListKey.sampleHost twoByTwo
    ⟨none, none⟩ threeUsers 2 :=
  (user_pages_partition_iff Calendar.host ProductListKey.sampleHost twoByTwo ⟨none, none⟩
    threeUsers 2 rfl (by decide) (by decide +kernel) (by decide +kernel) (by decide)
    Calendar.host_documented ProductListKey.sampleHost_documented).mpr (by decide +kernel)

end KeramikStore.UserPages
