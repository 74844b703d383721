import Canal.Replication

namespace Canal
set_option autoImplicit true

theorem utf8ByteSize_ofList_cons (c : Char) (l : List Char) :
    (String.ofList (c :: l)).utf8ByteSize = c.utf8Size + (String.ofList l).utf8ByteSize := by
  rw [← List.singleton_append, String.ofList_append, String.utf8ByteSize_append,
    ← String.singleton_eq_ofList, String.utf8ByteSize_singleton]

theorem length_le_utf8ByteSize (l : List Char) : l.length ≤ (String.ofList l).utf8ByteSize := by
  induction l with
  | nil => exact Nat.zero_le _
  | cons c l ih =>
    have := c.utf8Size_pos
    rw [utf8ByteSize_ofList_cons, List.length_cons]
    omega

theorem utf8ByteSize_le_length_iff (l : List Char) :
    (String.ofList l).utf8ByteSize ≤ l.length ↔ ∀ c ∈ l, c.utf8Size = 1 := by
  induction l with
  | nil => simp
  | cons c l ih =>
    have hc := c.utf8Size_pos
    have hl := length_le_utf8ByteSize l
    rw [utf8ByteSize_ofList_cons, List.length_cons, List.forall_mem_cons, ← ih]
    omega

theorem utf8ByteSize_le_four_mul (l : List Char) :
    (String.ofList l).utf8ByteSize ≤ 4 * l.length := by
  induction l with
  | nil => exact Nat.zero_le _
  | cons c l ih =>
    have := c.utf8Size_le_four
    rw [utf8ByteSize_ofList_cons, List.length_cons]
    omega

theorem truncateDdl_of_le (h : sql.utf8ByteSize ≤ ddlSqlMaxLen) : truncateDdl sql = sql := by
  rw [truncateDdl, if_neg (by omega)]

theorem truncateDdl_of_lt (h : ddlSqlMaxLen < sql.utf8ByteSize) :
    truncateDdl sql = String.ofList (sql.toList.take ddlSqlMaxLen) := by
  rw [truncateDdl, if_pos h]

theorem isPrefix_truncateDdl (sql : String) : (truncateDdl sql).toList <+: sql.toList := by
  rcases Nat.lt_or_ge ddlSqlMaxLen sql.utf8ByteSize with h | h
  · rw [truncateDdl_of_lt h, String.toList_ofList]
    exact List.take_prefix _ _
  · rw [truncateDdl_of_le h]

theorem truncateDdl_utf8ByteSize_le (sql : String) :
    (truncateDdl sql).utf8ByteSize ≤ 4 * ddlSqlMaxLen := by
  rcases Nat.lt_or_ge ddlSqlMaxLen sql.utf8ByteSize with h | h
  · rw [truncateDdl_of_lt h]
    have := utf8ByteSize_le_four_mul (sql.toList.take ddlSqlMaxLen)
    have := List.length_take_le ddlSqlMaxLen sql.toList
    omega
  · rw [truncateDdl_of_le h]
    omega

/-- A statement that is too long is cut down to the limit when the characters that are kept are
one byte each, and only then. -/
theorem truncateDdl_fits_iff (h : ddlSqlMaxLen < sql.utf8ByteSize) :
    (truncateDdl sql).utf8ByteSize ≤ ddlSqlMaxLen ↔
      ∀ c ∈ sql.toList.take ddlSqlMaxLen, c.utf8Size = 1 := by
  rw [truncateDdl_of_lt h, ← utf8ByteSize_le_length_iff, List.length_take]
  rcases Nat.le_total ddlSqlMaxLen sql.toList.length with hl | hl
  · rw [Nat.min_eq_left hl]
  · -- all of the statement is kept, and it is too long as it stands
    rw [Nat.min_eq_right hl, List.take_of_length_le hl, String.ofList_toList]
    omega

/-- What `ddl_sql` is meant to be: the statement up to a character boundary, within the limit, and
all of it when it fits. -/
def DdlBounded (sql text : String) : Prop :=
  text.toList <+: sql.toList ∧ text.utf8ByteSize ≤ ddlSqlMaxLen ∧
    (sql.utf8ByteSize ≤ ddlSqlMaxLen → text = sql)

theorem ddlBounded_truncateDdl_iff (sql : String) : DdlBounded sql (truncateDdl sql) ↔
    sql.utf8ByteSize ≤ ddlSqlMaxLen ∨ ∀ c ∈ sql.toList.take ddlSqlMaxLen, c.utf8Size = 1 := by
  constructor
  · intro ⟨_, hb, _⟩
    rcases Nat.lt_or_ge ddlSqlMaxLen sql.utf8ByteSize with h | h
    · exact .inr ((truncateDdl_fits_iff h).mp hb)
    · exact .inl h
  · intro h
    refine ⟨isPrefix_truncateDdl sql, ?_, truncateDdl_of_le⟩
    rcases Nat.lt_or_ge ddlSqlMaxLen sql.utf8ByteSize with hlt | hle
    · exact (truncateDdl_fits_iff hlt).mpr (h.resolve_left (by omega))
    · rwa [truncateDdl_of_le hle]

/-- The event of a Query item carries the statement within the limit if and only if the statement
fits, or its first 65536 characters are one byte each. -/
theorem DefaultBinlogConnector.ddl_bounded_iff (floats : FloatText) (header : EventHeader)
    (databaseName sql : String) (converter : EventConverter) (file : String)
    (gtid : Option String) (tx : EventChannel) :
    (∃ e text, (processAndSend floats header (.query databaseName sql) converter file gtid
        tx).offers.map Offer.item = [.ok e] ∧ e.ddlSql = some text ∧ DdlBounded sql text) ↔
    sql.utf8ByteSize ≤ ddlSqlMaxLen ∨ ∀ c ∈ sql.toList.take ddlSqlMaxLen, c.utf8Size = 1 := by
  have hitem : ∀ item, (tx.blockingSend item).2.item = item := by
    intro item
    rw [EventChannel.blockingSend]
    split <;> rfl
  rw [← ddlBounded_truncateDdl_iff, processAndSend]
  simp only [List.map_cons, List.map_nil, hitem, List.cons.injEq, and_true, Except.ok.injEq]
  constructor
  · intro ⟨e, text, he, ht, hb⟩
    rw [← he, Option.some.injEq] at ht
    rwa [ht]
  · intro hb
    exact ⟨_, _, rfl, rfl, hb⟩

theorem utf8ByteSize_replicate (n : Nat) (c : Char) :
    (String.ofList (List.replicate n c)).utf8ByteSize = n * c.utf8Size := by
  induction n with
  | zero => rw [Nat.zero_mul]; rfl
  | succ n ih =>
    rw [List.replicate_succ, utf8ByteSize_ofList_cons, ih, Nat.succ_mul, Nat.add_comm]

/-- 32769 letters of two bytes are over the limit, and the cut leaves all of them. -/
theorem DefaultBinlogConnector.ddl_over_limit :
    let sql := String.ofList (List.replicate 32769 'é')
    let header : EventHeader := { timestamp := 0, serverId := 1, nextEventPosition := 4 }
    let floats : FloatText := { float := fun _ => "", double := fun _ => "" }
    ddlSqlMaxLen < sql.utf8ByteSize ∧
      ¬ ∃ e text, (processAndSend floats header (.query "db" sql) .new "bin.1" none
        {}).offers.map Offer.item = [.ok e] ∧ e.ddlSql = some text ∧ DdlBounded sql text := by
  intro sql header floats
  have hlt : ddlSqlMaxLen < sql.utf8ByteSize := by
    rw [utf8ByteSize_replicate, show 'é'.utf8Size = 2 from rfl]
    decide
  refine ⟨hlt, ?_⟩
  rw [ddl_bounded_iff]
  intro h
  rcases h with h | h
  · omega
  · have hmem : 'é' ∈ sql.toList.take ddlSqlMaxLen := by
      rw [String.toList_ofList, List.take_replicate, List.mem_replicate]
      decide
    exact absurd (h 'é' hmem) (by decide)

end Canal
