import SuperAdvisor.MarketData.Calls

/-!
# Write-ahead commits

A commit that raises leaves every table as it was; one that returns has written
its batch to files of its own.  Hence a cursor always stands at a record that
some file holds.
-/

namespace SuperAdvisor.MarketData

open Raising Service

/-- Some file holds a record of the stream at the position. -/
def CursorWritten (files : List TableFile) (key : CursorKey) (cursor : Cursor) : Prop :=
  match key with
  | ⟨.ticks, logicalSymbol, none⟩ =>
      ∃ file ∈ files, ∃ tick ∈ file.ticks, tick.logicalSymbol = logicalSymbol ∧
        tick.marketTimeUtc = cursor.cursorUtc ∧ tick.sequenceId = cursor.markerId
  | ⟨.bars, logicalSymbol, some timeframe⟩ =>
      ∃ file ∈ files, ∃ bar ∈ file.bars, bar.logicalSymbol = logicalSymbol ∧
        bar.timeframe = timeframe ∧ bar.openTimeUtc = cursor.cursorUtc ∧
        bar.barId = cursor.markerId
  | _ => False

def CursorsWritten (store : Store) : Prop :=
  ∀ key cursor, store.tables.getCursor key = some cursor →
    CursorWritten store.files key cursor

theorem CursorWritten.mono
    {files more : List TableFile} {key : CursorKey} {cursor : Cursor}
    (written : CursorWritten files key cursor) : CursorWritten (files ++ more) key cursor := by
  unfold CursorWritten at written ⊢
  split
  · obtain ⟨file, inside, here⟩ := written
    exact ⟨file, List.mem_append_left _ inside, here⟩
  · obtain ⟨file, inside, here⟩ := written
    exact ⟨file, List.mem_append_left _ inside, here⟩
  · simp_all

/-- Rows whose records are in files are positions that are written. -/
theorem cursorWritten_of_cursorUnder
    {files : List TableFile} {key : CursorKey} {rows : BarRows} {cursor : Cursor}
    (keyed : ∀ row ∈ rows, row.1 = row.2.rowKey)
    (written : ∀ row ∈ rows, ∃ file ∈ files, row.2 ∈ file.bars)
    (found : Tables.cursorUnder key rows = some cursor) : CursorWritten files key cursor := by
  obtain ⟨row, member, rfl, rfl⟩ := Tables.exists_row_of_cursorUnder found
  obtain ⟨file, inside, here⟩ := written row member
  have same := keyed row member
  exact ⟨file, inside, row.2, here, (congrArg Prod.fst same).symm,
    (congrArg Prod.snd same).symm, rfl, rfl⟩

section Steps

variable {env : Environment} {settings : MarketDataSettings}

private theorem cursorsWritten_cycle
    {store : Store} {symbol : ResolvedSymbol} {observedNow : Int} {cycle : SymbolCycle}
    (describes : cycle.Describes env settings symbol observedNow store.tables store.moment)
    (before : CursorsWritten store) {key : CursorKey} {cursor : Cursor}
    {incidents : List QualityIncident}
    (found : (Service.committedTables store.tables symbol cycle.ticks
      (cycle.currentRows observedNow) (cycle.closedRows observedNow) incidents
      observedNow).getCursor key = some cursor) :
    CursorWritten (store.files ++ tickFiles env.library cycle.ticks ++
      barFiles env.library cycle.bars) key cursor := by
  rw [Service.getCursor_committedTables] at found
  rcases Option.or_eq_some_iff.mp found with row | ⟨-, later⟩
  · refine cursorWritten_of_cursorUnder (fun row member => (mem_gatherRows member).1) ?_ row
    intro row member
    obtain ⟨-, -, load, inside, here⟩ := mem_gatherRows member
    obtain ⟨file, written, holds⟩ := exists_barFile env.library
      (List.mem_flatMap.mpr ⟨load, inside, here⟩ : row.2 ∈ cycle.bars)
    exact ⟨file, List.mem_append_right _ written, holds⟩
  · rcases Option.or_eq_some_iff.mp later with last | ⟨-, old⟩
    · split at last
      next same =>
        subst same
        obtain ⟨tick, here, rfl⟩ := Option.map_eq_some_iff.mp last
        have member : tick ∈ cycle.ticks := List.mem_of_getLast? here
        obtain ⟨payload, -, receivedAtUtc, made⟩ := describes.ticks.exists_payload member
        obtain ⟨file, written, holds⟩ := exists_tickFile env.library member
        refine ⟨file, List.mem_append_left _ (List.mem_append_right _ written), tick, holds,
          ?_, rfl, rfl⟩
        rw [made]
        rfl
      next => cases last
    · exact (before key cursor old).mono.mono

private theorem cursorsWritten_chunk
    {store : Store} {run : BackfillRun} {load : BarLoad} {chunkEnd : Int} {committed : Tables}
    (chunk : ChunkOf env settings store.tables run load chunkEnd)
    (changed : Service.ChunkCommitted store.tables run.resolved.logicalSymbol run.timeframe
      load.bars committed)
    (before : CursorsWritten store) {key : CursorKey} {cursor : Cursor}
    (found : committed.getCursor key = some cursor) :
    CursorWritten (store.files ++ barFiles env.library load.bars) key cursor := by
  unfold Service.ChunkCommitted at changed
  split at changed
  next => exact (before key cursor (changed ▸ found)).mono
  next last _ =>
    obtain ⟨incidents, rfl⟩ := changed
    unfold Tables.getCursor at found
    rw [Tables.recordIncidents_cursors] at found
    have rows := (Tables.getCursor_replaceRows _ _ _ key).symm.trans found
    rcases Option.or_eq_some_iff.mp rows with row | ⟨-, old⟩
    · have inBars : ∀ row ∈ (Service.chunkRows run.resolved.logicalSymbol run.timeframe
          load.bars last).1, row.1 = (run.resolved.logicalSymbol, run.timeframe) ∧
          row.2 ∈ load.bars := by
        intro row member
        obtain ⟨selected, inside, rfl⟩ := List.mem_map.mp member
        rw [split_eq_selectRows] at inside
        rcases mem_selectRows inside with ⟨-, here, -⟩ | none
        · exact ⟨rfl, here⟩
        · cases none
      refine cursorWritten_of_cursorUnder ?_ ?_ row
      · intro row member
        obtain ⟨key, here⟩ := inBars row member
        obtain ⟨payload, -, made⟩ := chunk.answers.exists_payload here
        rw [key, made, chunk.timeframe]
        rfl
      · intro row member
        obtain ⟨file, written, holds⟩ := exists_barFile env.library
          (inBars row member).2
        exact ⟨file, List.mem_append_right _ written, holds⟩
    · exact (before key cursor old).mono

theorem cursorsWritten_step
    {store after : Store} {event : StoreEvent}
    (step : StoreStep env settings store event after) (before : CursorsWritten store) :
    CursorsWritten after := by
  cases step with
  | wrote => exact fun key cursor found => (before key cursor found).mono
  | cycle resolved describes =>
      exact fun key cursor found => cursorsWritten_cycle describes before found
  | heartbeat => exact before
  | chunk chunk changed =>
      exact fun key cursor found => cursorsWritten_chunk chunk changed before found
  | progressed => exact before
  | failed => exact before

end Steps

/-- A commit of a symbol is atomic, and in every state that calls reach every
cursor stands at a written record. -/
theorem commitSymbol_writeAhead
    (env : Environment) (settings : MarketDataSettings) (fuel : Nat) (calls : List Call) :
    (∀ symbol ticks bars currentRows closedRows incidents observedNow world,
      match (Service.commitSymbol env symbol ticks bars currentRows closedRows incidents
          observedNow).run world with
      | .error _ after => after.tables = world.tables
      | .ok _ after => ∃ written, after.files = world.files ++ written ∧
          (∀ tick ∈ ticks, ∃ file ∈ written, tick ∈ file.ticks) ∧
          ∀ bar ∈ bars, ∃ file ∈ written, bar ∈ file.bars) ∧
      ∀ key cursor,
        (runCalls env settings fuel calls freshWorld).tables.getCursor key = some cursor →
          CursorWritten (runCalls env settings fuel calls freshWorld).files key cursor := by
  constructor
  · intro symbol ticks bars currentRows closedRows incidents observedNow world
    have known := Service.ensures_commitSymbol env symbol ticks bars currentRows closedRows
      incidents observedNow world (at_self world)
    split
    next after ran =>
      rw [ran] at known
      exact known.tables
    next after ran =>
      rw [ran] at known
      obtain ⟨found, -, here⟩ := known
      refine ⟨tickFiles env.library ticks ++ barFiles env.library bars,
        by rw [here.files, List.append_assoc], ?_, ?_⟩
      · intro tick member
        obtain ⟨file, inside, holds⟩ := exists_tickFile env.library member
        exact ⟨file, List.mem_append_left _ inside, holds⟩
      · intro bar member
        obtain ⟨file, inside, holds⟩ := exists_barFile env.library member
        exact ⟨file, List.mem_append_right _ inside, holds⟩
  · intro key cursor found
    obtain ⟨events, after, run, stands⟩ : Moved env settings freshStore _ :=
      moved_of_calls fuel calls stands_fresh
    have written := run.invariant CursorsWritten
      (fun _ _ _ step before => cursorsWritten_step step before) (fun _ _ none => by cases none)
    rw [stands.tables] at found
    rw [stands.files]
    exact written key cursor found

end SuperAdvisor.MarketData
