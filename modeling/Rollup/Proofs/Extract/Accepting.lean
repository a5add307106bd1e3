import Rollup.Proofs.Extract.Streaming

namespace Rollup

variable {σ : Type}

/-- How an extraction ends that only a row can stop. -/
inductive RowsEnd (decode : Row → Extracted Record) (rows : List Row) (written : List Record) :
    Extracted Nat → Prop where
  /-- All rows were written. -/
  | all (hwritten : rows.map decode = written.map .ok) :
    RowsEnd decode rows written (.ok rows.length)
  /-- The rows before one that does not decode were written. -/
  | stopped {before after : List Row} {row : Row} {fault : ExtractFault}
    (hrows : rows = before ++ row :: after) (hwritten : before.map decode = written.map .ok)
    (hfault : decode row = .error fault) : RowsEnd decode rows written (.error fault)

namespace RowsEnd

variable {decode : Row → Extracted Record} {rows : List Row} {written others : List Record}

theorem records_unique (h : rows.map decode = written.map .ok)
    (hother : rows.map decode = others.map .ok) : written = others :=
  (List.map_inj_right fun _ _ => Except.ok.inj).1 (h.symm.trans hother)

theorem ne_error_of_mem (h : rows.map decode = written.map .ok) {row : Row} (hrow : row ∈ rows)
    (fault : ExtractFault) : decode row ≠ .error fault := by
  intro hfault
  have hmem : decode row ∈ written.map .ok := h ▸ List.mem_map_of_mem hrow
  rw [hfault] at hmem
  simp at hmem

theorem eq_nil_of_error {before between rest after : List Row} {row : Row} {fault : ExtractFault}
    (hrest : row :: after = between ++ rest)
    (hwritten : (before ++ between).map decode = written.map .ok)
    (hfault : decode row = .error fault) : between = [] := by
  cases between with
  | nil => rfl
  | cons first others =>
      refine absurd hfault (ne_error_of_mem hwritten ?_ fault)
      rw [(List.cons.inj hrest).1]
      exact List.mem_append_right before List.mem_cons_self

theorem split_unique {before before' after after' : List Row} {row row' : Row}
    {fault fault' : ExtractFault} (hsplit : before ++ row :: after = before' ++ row' :: after')
    (hwritten : before.map decode = written.map .ok) (hfault : decode row = .error fault)
    (hothers : before'.map decode = others.map .ok) (hfault' : decode row' = .error fault') :
    before = before' ∧ row = row' := by
  rcases List.append_eq_append_iff.1 hsplit with
    ⟨between, rfl, hrest⟩ | ⟨between, rfl, hrest⟩
  · obtain rfl := eq_nil_of_error hrest hothers hfault
    exact ⟨(List.append_nil before).symm, (List.cons.inj hrest).1⟩
  · obtain rfl := eq_nil_of_error hrest hwritten hfault'
    exact ⟨List.append_nil before', (List.cons.inj hrest).1.symm⟩

/-- How an extraction ends follows from what its rows decode into. -/
theorem unique {result result' : Extracted Nat} (h : RowsEnd decode rows written result)
    (hother : RowsEnd decode rows others result') : written = others ∧ result = result' := by
  cases h with
  | all hwritten =>
      cases hother with
      | all hothers => exact ⟨records_unique hwritten hothers, rfl⟩
      | @stopped _ _ row _ hrows _ hfault =>
          refine absurd hfault (ne_error_of_mem hwritten ?_ _)
          rw [hrows]
          exact List.mem_append_right _ List.mem_cons_self
  | @stopped before _ row _ hrows hwritten hfault =>
      cases hother with
      | all hothers =>
          refine absurd hfault (ne_error_of_mem hothers ?_ _)
          rw [hrows]
          exact List.mem_append_right _ List.mem_cons_self
      | stopped hrows' hothers hfault' =>
          obtain ⟨rfl, rfl⟩ :=
            split_unique (hrows.symm.trans hrows') hwritten hfault hothers hfault'
          rw [hfault, Except.error.injEq] at hfault'
          exact ⟨records_unique hwritten hothers, congrArg Except.error hfault'⟩

end RowsEnd

theorem faultAt?_of_taken {request : Request σ} {rows : List Row} {target : σ}
    (htaken : ∀ before record, request.formatter.refusal? target before record = none)
    (ownerOf? : Int → Option Owner) {index : Nat} {row : Row} (hrow : rows[index]? = some row) :
    request.faultAt? ⟨rows, none⟩ ownerOf? target index =
      match request.decode ownerOf? row with
      | .error fault => some fault
      | .ok _ => none := by
  rw [Request.faultAt?]
  simp only [hrow]
  cases request.decode ownerOf? row with
  | error fault => rfl
  | ok record =>
      simp only [htaken]
      rfl

theorem extract_of_taken (request : Request σ) (rows : List Row) (target : σ) (cache : OwnerCache)
    (htaken : ∀ before record, request.formatter.refusal? target before record = none) :
    let extraction := extract request { rows } target cache
    RowsEnd (request.decode cache.get?) rows extraction.written extraction.result ∧
      extraction.target = request.formatter.stateAfter target extraction.written := by
  intro extraction
  obtain ⟨count, hstreamed⟩ := exists_streamed_extractRows request none rows 0 target cache
  change Streamed _ _ _ _ _ _ extraction at hstreamed
  rw [Nat.zero_add] at hstreamed
  have hresult := hstreamed.result
  have htarget := hstreamed.target
  rcases Nat.lt_or_eq_of_le hstreamed.count_le with hlt | heq
  · have hrow : rows[count]? = some rows[count] := List.getElem?_eq_getElem hlt
    have hfault := faultAt?_of_taken htaken cache.get? hrow
    have hstopped := hstreamed.stopped hlt
    cases hdecode : request.decode cache.get? rows[count] with
    | ok record =>
        rw [hfault, hdecode] at hstopped
        cases hstopped
    | error fault =>
        rw [hfault, hdecode] at hresult
        have hoffered : request.offered ⟨rows, none⟩ cache.get? count = [] := by
          simp [Request.offered, hrow, hdecode, Except.toOption]
        rw [hoffered, List.append_nil] at htarget
        refine ⟨?_, htarget⟩
        rw [hresult]
        have hrows : rows = rows.take count ++ rows[count] :: rows.drop (count + 1) := by
          rw [← List.drop_eq_getElem_cons hlt, List.take_append_drop]
        exact .stopped hrows hstreamed.records.symm hdecode
  · have hend : rows[count]? = none := List.getElem?_eq_none (Nat.le_of_eq heq.symm)
    have hfault : request.faultAt? ⟨rows, none⟩ cache.get? target count = none := by
      simp [Request.faultAt?, hend]
    have hoffered : request.offered ⟨rows, none⟩ cache.get? count = [] := by
      simp [Request.offered, hend]
    have hrecords := hstreamed.records
    rw [heq, List.take_length] at hrecords
    rw [hfault] at hresult
    rw [hoffered, List.append_nil] at htarget
    refine ⟨?_, htarget⟩
    rw [hresult]
    exact .all hrecords.symm

theorem decodes_of_extract_eq_ok {request : Request σ} {feed : RowFeed} {target : σ}
    {cache : OwnerCache} {count : Nat}
    (h : (extract request feed target cache).result = .ok count) :
    count = feed.rows.length ∧ feed.rows.map (request.decode cache.get?) =
      (extract request feed target cache).written.map .ok := by
  obtain ⟨stop, hstreamed⟩ :=
    exists_streamed_extractRows request feed.failure feed.rows 0 target cache
  change Streamed request feed _ _ _ _ (extract request feed target cache) at hstreamed
  have hresult := h.symm.trans hstreamed.result
  cases hfault : request.faultAt? feed cache.get? target stop with
  | some fault =>
      rw [hfault] at hresult
      cases hresult
  | none =>
      have hstop : stop = feed.rows.length := by
        refine Nat.le_antisymm hstreamed.count_le (Nat.le_of_not_lt fun hlt => ?_)
        have hsome := hstreamed.stopped hlt
        rw [hfault] at hsome
        cases hsome
      rw [hfault] at hresult
      constructor
      · rw [Except.ok.inj hresult, Nat.zero_add]
      · rw [hstreamed.records, hstop, List.take_length]

end Rollup
