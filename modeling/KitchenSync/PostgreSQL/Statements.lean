import KitchenSync.PostgreSQL.RowPacking
import KitchenSync.Except

/-!
# Statements on the connection

`execute`, `select_one` and `query` send one statement and read libpq's answer. A status
other than the one they expect throws `sql_error`: the connection's error message, then the
statement, cut after 200 characters and marked `...` where it is cut. `select_one` also throws
unless the answer has exactly one row of one column, quoting the whole statement, and returns
the text of that field; `export_snapshot` returns what `select_one` reads from
`pg_export_snapshot()`. What libpq answers is a parameter: its status, its error message, the
rows affected and the rows.
-/

namespace KitchenSync

/-- The `ExecStatusType`s the client tells apart: `PGRES_COMMAND_OK`, `PGRES_TUPLES_OK`, and
any other. -/
inductive ExecStatus where
  | commandOk
  | tuplesOk
  | other
  deriving DecidableEq, Repr

/-- What libpq answers to a statement: `PQresultStatus`, the `atoi` of `PQcmdTuples`, and
the rows of a text-format result. -/
structure Answer where
  status : ExecStatus
  rowsAffected : ℕ
  result : PostgreSQLResult

namespace PostgreSQLClient

variable (errorMessage : String)

/-- `PostgreSQLClient::sql_error`: the connection's error message, then the statement, cut
after 200 characters and marked where it is cut. -/
def sqlError (sql : String) : String :=
  if sql.length < 200 then errorMessage ++ "\n" ++ sql
  else errorMessage ++ "\n" ++ substr sql 0 200 ++ "..."

/-- `PostgreSQLClient::execute`: the rows affected, unless the statement failed. -/
def execute (answer : Answer) (sql : String) : Except String ℕ :=
  if answer.status ≠ .commandOk ∧ answer.status ≠ .tuplesOk then throw (sqlError errorMessage sql)
  else pure answer.rowsAffected

/-- `PostgreSQLRow::string_at`: libpq gives a NULL field as the empty text. -/
def stringAt : Option String → String
  | none => ""
  | some value => value

/-- `PostgreSQLClient::select_one`. -/
def selectOne (answer : Answer) (sql : String) : Except String String :=
  if answer.status ≠ .tuplesOk then throw (sqlError errorMessage sql)
  else if answer.result.rows.length ≠ 1 ∨ answer.result.columnTypes.length ≠ 1 then
    throw ("Expected query to return only one row with only one column\n" ++ sql)
  else pure (stringAt ((answer.result.rows.headD []).headD none))

/-- `PostgreSQLClient::query`: the row handler over every row, and the number of rows,
unless the statement failed. A handler that throws ends the loop with its exception. -/
def query {σ : Type} (handler : σ → List (Option String) → Except String σ) (state : σ)
    (answer : Answer) (sql : String) : Except String (σ × ℕ) :=
  if answer.status ≠ .tuplesOk then throw (sqlError errorMessage sql)
  else do
    let state ← answer.result.rows.foldlM handler state
    pure (state, answer.result.rows.length)

/-- `PostgreSQLClient::export_snapshot`, given libpq's answers to its two statements. -/
def exportSnapshot (start snapshot : Answer) : Except String String := do
  let _ ← execute errorMessage start "START TRANSACTION READ ONLY ISOLATION LEVEL REPEATABLE READ"
  selectOne errorMessage snapshot "SELECT pg_export_snapshot()"

/-! ### What a statement returns -/

/-- A handler that does not throw runs as a plain fold. -/
theorem foldlM_ok {σ α : Type} (f : σ → α → σ) (state : σ) (rows : List α) :
    rows.foldlM (fun state row => (.ok (f state row) : Except String σ)) state =
      .ok (rows.foldl f state) :=
  foldlM_eq_ok_foldl (fun _ => True) (fun _ _ _ _ => ⟨rfl, trivial⟩) trivial

/-- A statement answered with rows runs a handler that does not throw over them. -/
theorem query_of_tuplesOk_ok {σ : Type} (handler : σ → List (Option String) → σ) (state : σ)
    {answer : Answer} (hstatus : answer.status = .tuplesOk) (sql : String) :
    query errorMessage (fun state row => .ok (handler state row)) state answer sql =
      .ok (answer.result.rows.foldl handler state, answer.result.rows.length) := by
  rw [query, if_neg (not_not.mpr hstatus), foldlM_ok]
  rfl

/-- A statement answered with rows runs the handler over them. -/
theorem query_of_tuplesOk {σ : Type} (handler : σ → List (Option String) → Except String σ)
    (state : σ) {answer : Answer} (hstatus : answer.status = .tuplesOk) (sql : String) :
    query errorMessage handler state answer sql =
      (answer.result.rows.foldlM handler state).map fun state => (state, answer.result.rows.length) := by
  rw [query, if_neg (not_not.mpr hstatus)]
  cases answer.result.rows.foldlM handler state <;> rfl

/-- A query that returns was answered with rows, and its handler returned over them. -/
theorem foldlM_of_query_eq_ok {σ : Type} {handler : σ → List (Option String) → Except String σ}
    {state : σ} {answer : Answer} {sql : String} {result : σ × ℕ}
    (h : query errorMessage handler state answer sql = .ok result) :
    answer.status = .tuplesOk ∧ answer.result.rows.foldlM handler state = .ok result.1 := by
  -- `split_ifs` closes the branch that throws
  rw [query] at h
  split_ifs at h with hstatus
  cases hrows : answer.result.rows.foldlM handler state with
  | error e => rw [hrows, except_error_bind] at h; cases h
  | ok final =>
    rw [hrows, except_ok_bind, except_pure, Except.ok.injEq] at h
    exact ⟨not_not.mp hstatus, by rw [← h]⟩

/-- A query throws the `sql_error` of its statement, when libpq did not answer it with rows,
or what its handler throws over the rows. -/
theorem query_eq_error {σ : Type} {handler : σ → List (Option String) → Except String σ}
    {state : σ} {answer : Answer} {sql e : String}
    (h : query errorMessage handler state answer sql = .error e) :
    (answer.status ≠ .tuplesOk ∧ e = sqlError errorMessage sql) ∨
      answer.result.rows.foldlM handler state = .error e := by
  rw [query] at h
  split_ifs at h with hstatus
  · exact .inl ⟨hstatus, (Except.error.inj h).symm⟩
  · rcases except_bind_eq_error_iff.mp h with h | ⟨_, -, h⟩
    exacts [.inr h, by cases h]

/-- A query whose handler does not throw throws only the `sql_error` of its statement. -/
theorem eq_sqlError_of_query_ok {σ : Type} {handler : σ → List (Option String) → σ}
    {state : σ} {answer : Answer} {sql e : String}
    (h : query errorMessage (fun state row => .ok (handler state row)) state answer sql = .error e) :
    answer.status ≠ .tuplesOk ∧ e = sqlError errorMessage sql :=
  (query_eq_error errorMessage h).resolve_right (by rw [foldlM_ok]; nofun)

/-- `select_one` returns exactly for an answer of one row of one column, and then the text of
that field, empty for a NULL. -/
theorem selectOne_eq_ok_iff (answer : Answer) (sql value : String) :
    selectOne errorMessage answer sql = .ok value ↔
      answer.status = .tuplesOk ∧ answer.result.columnTypes.length = 1 ∧
        ∃ field, answer.result.rows = [[field]] ∧ stringAt field = value := by
  by_cases hstatus : answer.status = .tuplesOk
  case neg =>
    rw [selectOne, if_pos hstatus, except_throw]
    exact iff_of_false nofun fun h => hstatus h.1
  by_cases hshape : answer.result.rows.length ≠ 1 ∨ answer.result.columnTypes.length ≠ 1
  · rw [selectOne, if_neg (not_not.mpr hstatus), if_pos hshape, except_throw]
    refine iff_of_false nofun ?_
    rintro ⟨-, hcolumns, field, hrows, -⟩
    simp [hrows, hcolumns] at hshape
  · -- one row, whose one field the invariant of the result gives
    rw [selectOne, if_neg (not_not.mpr hstatus), if_neg hshape, except_pure, Except.ok.injEq]
    obtain ⟨hrows, hcolumns⟩ := not_or.mp hshape
    obtain ⟨row, hrow⟩ := List.length_eq_one.mp (not_not.mp hrows)
    have hlength := answer.result.length_eq row (hrow ▸ List.mem_singleton_self row)
    obtain ⟨field, rfl⟩ := List.length_eq_one.mp (hlength.trans (not_not.mp hcolumns))
    simp [hrow, hstatus, not_not.mp hcolumns]

/-! ### Every failure quotes its statement -/

end PostgreSQLClient

end KitchenSync
