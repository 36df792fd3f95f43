import Mathlib.Data.List.Infix
import Browserd.Lib.Exec

/-!
# Write loops

A text is written by calls that may take only a part of it, be interrupted or fail; after a failure
the stream is closed. What arrives of several texts is each of them in full, and then at most a part
of the next. Nothing here refers to a particular program.
-/

namespace WriteLoop

open Transition

variable {α : Type*}

/-- What one call answers. -/
inductive Result where
  | wrote (count : Nat)
  | again
  | failed
  deriving DecidableEq

/-- The call was not interrupted. -/
def Result.moves : Result → Bool
  | again => false
  | _ => true

structure State (α : Type*) where
  written : List α
  remaining : List α
  failed : Bool

def start (text : List α) : State α := ⟨[], text, false⟩

/-- One round of the loop; a call writes at least one and at most all of what remains. -/
def step (s : State α) (r : Result) : Option (State α) :=
  if s.failed || s.remaining.isEmpty then none
  else
    match r with
    | .wrote count =>
        if 0 < count ∧ count ≤ s.remaining.length then
          some ⟨s.written ++ s.remaining.take count, s.remaining.drop count, false⟩
        else none
    | .again => some s
    | .failed => some { s with failed := true }

/-- The loop is left. -/
def State.Ended (s : State α) : Prop := s.failed = true ∨ s.remaining = []

section Loop

variable {s t : State α} {text : List α} {r : Result} {rs : List Result}

theorem step_split (h : step s r = some t) :
    t.written ++ t.remaining = s.written ++ s.remaining ∧
      (t.failed = true ↔ s.failed = true ∨ r = .failed) := by
  simp only [step] at h
  split at h
  · cases h
  rename_i hgo
  cases r with
  | wrote count =>
      simp only at h
      split at h
      · obtain rfl := Option.some.inj h
        refine ⟨by simp, ?_⟩
        simp only [Bool.or_eq_true, not_or] at hgo
        simp [hgo.1]
      · cases h
  | again =>
      obtain rfl := Option.some.inj h
      simp
  | failed =>
      obtain rfl := Option.some.inj h
      simp

/-- At every moment the text is what is written and what remains, and the loop has failed if one of
its calls has. -/
theorem run_split (h : Exec (Step step) s rs t) :
    t.written ++ t.remaining = s.written ++ s.remaining ∧
      (t.failed = true ↔ s.failed = true ∨ .failed ∈ rs) := by
  induction h with
  | nil s => simp
  | cons head _ ih =>
      obtain ⟨hsplit, hfailed⟩ := step_split head
      refine ⟨ih.1.trans hsplit, ih.2.trans ?_⟩
      rw [hfailed, List.mem_cons, or_assoc]
      simp only [eq_comm]

/-- Every call but an interrupted one takes something of the text or ends the loop. -/
theorem run_length (h : Exec (Step step) s rs t) (hs : s.failed = false) :
    rs.countP Result.moves + t.remaining.length ≤
      s.remaining.length + (if t.failed then 1 else 0) := by
  induction h with
  | nil s => simp
  | @cons s s' t r rs head tail ih =>
      simp only [Step, step] at head
      split at head
      · cases head
      cases r with
      | wrote count =>
          simp only at head
          split at head
          · rename_i hcount
            obtain rfl := Option.some.inj head
            have hrest := ih rfl
            rw [List.length_drop] at hrest
            rw [List.countP_cons_of_pos rfl]
            omega
          · cases head
      | again =>
          obtain rfl := Option.some.inj head
          simpa [Result.moves] using ih hs
      | failed =>
          obtain rfl := Option.some.inj head
          cases tail with
          | nil => simp [Result.moves, Nat.add_comm]
          | cons head' tail' => simp [Step, step] at head'

theorem start_length (h : Exec (Step step) (start text) rs t) :
    rs.countP Result.moves ≤ text.length + 1 := by
  have hlength := run_length h rfl
  simp only [start] at hlength
  split at hlength
  · omega
  · omega

/-- A loop that is left has written the whole text or has failed. -/
theorem run_ended (h : Exec (Step step) (start text) rs t) (hended : t.Ended) :
    t.written <+: text ∧ (t.failed = true ↔ .failed ∈ rs) ∧
      (t.failed = false → t.written = text) := by
  obtain ⟨hsplit, hfailed⟩ := run_split h
  simp only [start, List.nil_append, Bool.false_eq_true, false_or] at hsplit hfailed
  refine ⟨⟨t.remaining, hsplit⟩, hfailed, ?_⟩
  intro hok
  have hremaining : t.remaining = [] := by
    rcases hended with hbad | hremaining
    · exact absurd (hok.symm.trans hbad) Bool.false_ne_true
    · exact hremaining
  rw [← hsplit, hremaining, List.append_nil]

end Loop

/-- What the reader of a stream can get of it. -/
structure Stream (α : Type*) where
  written : List α
  closed : Bool

/-- A text is delivered in full or the stream is closed; nothing is written to a closed one. -/
def Delivers (s : Stream α) (text : List α) (t : Stream α) : Prop :=
  if s.closed then t = s
  else (t.closed = false ∧ t.written = s.written ++ text) ∨
    (t.closed = true ∧ ∃ part, part <+: text ∧ t.written = s.written ++ part)

/-- A text is delivered, or something else happens, which writes nothing and does not open the
stream again. -/
inductive Moves (s : Stream α) : Option (List α) → Stream α → Prop
  | text (text : List α) (t : Stream α) (delivers : Delivers s text t) : Moves s (some text) t
  | other (t : Stream α) (written : t.written = s.written)
      (closed : s.closed = true → t.closed = true) : Moves s none t

theorem moves_closed {s t : Stream α} {labels : List (Option (List α))}
    (h : Exec Moves s labels t) (hs : s.closed = true) :
    t.written = s.written ∧ t.closed = true := by
  induction h with
  | nil s => exact ⟨rfl, hs⟩
  | cons head _ ih =>
      cases head with
      | text text t delivers =>
          rw [Delivers, if_pos hs] at delivers
          subst delivers
          exact ih hs
      | other t written closed =>
          obtain ⟨hwritten, hclosed⟩ := ih (closed hs)
          exact ⟨hwritten.trans written, hclosed⟩

/-- From one moment to another the reader has got some of the texts in full and at most a part of
the next one; the stream is closed unless it has got them all. -/
def Reads (texts : List (List α)) (s t : Stream α) : Prop :=
  ∃ full part rest, texts = full ++ rest ∧ t.written = s.written ++ full.flatten ++ part ∧
    (part = [] ∨ ∃ text ∈ rest.head?, part <+: text) ∧ (t.closed = false → rest = [])

theorem reads_of_moves {s t : Stream α} {labels : List (Option (List α))}
    (h : Exec Moves s labels t) : Reads (labels.filterMap id) s t := by
  induction h with
  | nil s => exact ⟨[], [], [], by simp⟩
  | @cons s s' t label labels head tail ih =>
      by_cases hs : s.closed = true
      · obtain ⟨hwritten, hclosed⟩ := moves_closed (.cons head tail) hs
        exact ⟨[], [], (label :: labels).filterMap id, by simp [hwritten, hclosed]⟩
      · cases head with
        | other s' written closed =>
            obtain ⟨full, part, rest, htexts, hall, hpart, hrest⟩ := ih
            exact ⟨full, part, rest, htexts, by rw [hall, written], hpart, hrest⟩
        | text text s' delivers =>
            rw [Delivers, if_neg hs] at delivers
            rcases delivers with ⟨-, hwritten⟩ | ⟨hclosed, part, hpart, hwritten⟩
            · obtain ⟨full, part, rest, htexts, hall, hpart, hrest⟩ := ih
              refine ⟨text :: full, part, rest, ?_, ?_, hpart, hrest⟩
              · rw [List.cons_append, ← htexts]
                rfl
              · rw [hall, hwritten, List.flatten_cons, List.append_assoc s.written]
            · obtain ⟨hstays, hclosed⟩ := moves_closed tail hclosed
              exact ⟨[], part, text :: labels.filterMap id,
                by simp [hstays, hwritten, hpart, hclosed]⟩

/-- A stream with what remains of the text that is being written to it. -/
structure Writer (α : Type*) where
  stream : Stream α
  remaining : List α

namespace Writer

/-- One call at a time: the next text is taken, or dropped if the stream is closed; a part of what
remains is written; the stream is closed and what remains is given up. -/
inductive Goes (s : Writer α) : Option (List α) → Writer α → Prop
  | takes (text : List α) (idle : s.remaining = []) (isOpen : s.stream.closed = false) :
      Goes s (some text) { s with remaining := text }
  | drops (text : List α) (closed : s.stream.closed = true) : Goes s (some text) s
  | writes (part rest : List α) (split : s.remaining = part ++ rest)
      (isOpen : s.stream.closed = false) : Goes s none ⟨⟨s.stream.written ++ part, false⟩, rest⟩
  | closes : Goes s none ⟨⟨s.stream.written, true⟩, []⟩
  | stays : Goes s none s

/-- What has been written behind `base` of the texts that were taken or dropped. -/
inductive Sent (base : List α) (texts : List (List α)) (s : Writer α) : Prop
  | whole (isOpen : s.stream.closed = false) (idle : s.remaining = [])
      (written : s.stream.written = base ++ texts.flatten)
  | within (full : List (List α)) (part : List α) (split : texts = full ++ [part ++ s.remaining])
      (isOpen : s.stream.closed = false) (written : s.stream.written = base ++ full.flatten ++ part)
  | closed (full : List (List α)) (part : List α) (rest : List (List α))
      (split : texts = full ++ rest) (isClosed : s.stream.closed = true) (idle : s.remaining = [])
      (written : s.stream.written = base ++ full.flatten ++ part)
      (begun : part = [] ∨ ∃ text ∈ rest.head?, part <+: text)

variable {base : List α} {texts : List (List α)} {s t : Writer α} {label : Option (List α)}

/-- With nothing left to be written the last text is whole. -/
theorem Sent.written_of_open (h : Sent base texts s) (hidle : s.remaining = [])
    (hopen : s.stream.closed = false) : s.stream.written = base ++ texts.flatten := by
  cases h with
  | whole isOpen idle written => exact written
  | within full part split isOpen written => simp [written, split, hidle]
  | closed full part rest split isClosed idle written begun =>
      exact absurd (hopen.symm.trans isClosed) Bool.false_ne_true

theorem Sent.goes (h : Sent base texts s) (hstep : Goes s label t) :
    Sent base (texts ++ label.toList) t := by
  cases hstep with
  | takes text idle isOpen =>
      exact .within texts [] (by simp) isOpen (by simpa using h.written_of_open idle isOpen)
  | drops text closed =>
      cases h with
      | whole isOpen => exact absurd (isOpen.symm.trans closed) Bool.false_ne_true
      | within full part split isOpen =>
          exact absurd (isOpen.symm.trans closed) Bool.false_ne_true
      | closed full part rest split isClosed idle written begun =>
          refine .closed full part (rest ++ [text]) (by simp [split]) isClosed idle written ?_
          rcases begun with hnone | ⟨begun, hhead, hpart⟩
          · exact .inl hnone
          · exact .inr ⟨begun, by simp_all, hpart⟩
  | writes part rest hsplit isOpen =>
      rw [Option.toList_none, List.append_nil]
      cases h with
      | whole isOpen idle written =>
          obtain ⟨rfl, rfl⟩ := List.append_eq_nil_iff.mp (hsplit.symm.trans idle)
          exact .whole rfl rfl (by simp [written])
      | within full before split isOpen written =>
          exact .within full (before ++ part) (by simp [split, hsplit]) rfl (by simp [written])
      | closed full before after split isClosed =>
          exact absurd (isOpen.symm.trans isClosed) Bool.false_ne_true
  | closes =>
      rw [Option.toList_none, List.append_nil]
      cases h with
      | whole isOpen idle written =>
          exact .closed texts [] [] (by simp) rfl rfl (by simp [written]) (.inl rfl)
      | within full part split isOpen written =>
          exact .closed full part _ split rfl rfl written
            (.inr ⟨_, rfl, List.prefix_append part s.remaining⟩)
      | closed full part rest split isClosed idle written begun =>
          exact .closed full part rest split rfl rfl written begun
  | stays => rwa [Option.toList_none, List.append_nil]

theorem Sent.run {labels : List (Option (List α))} (hrun : Exec Goes s labels t)
    (h : Sent base texts s) : Sent base (texts ++ labels.filterMap id) t := by
  induction hrun generalizing texts with
  | nil s => simpa using h
  | @cons s next t label labels head tail ih =>
      have hrest := ih (h.goes head)
      rw [List.append_assoc] at hrest
      cases label with
      | none => exact hrest
      | some text => exact hrest

/-- Once nothing remains to be written, what the reader has got is as if each text had been
delivered by a call of its own. -/
theorem reads {labels : List (Option (List α))} (hrun : Exec Goes s labels t)
    (hs : s.stream.closed = false) (hidle : s.remaining = []) (ht : t.remaining = []) :
    Reads (labels.filterMap id) s.stream t.stream := by
  have hstart : Sent s.stream.written [] s := .whole hs hidle (by simp)
  have hsent := hstart.run hrun
  rw [List.nil_append] at hsent
  cases hclosed : t.stream.closed with
  | false =>
      exact ⟨labels.filterMap id, [], [], by simp, by simpa using hsent.written_of_open ht hclosed,
        .inl rfl, fun _ => rfl⟩
  | true =>
      cases hsent with
      | whole isOpen => exact absurd (isOpen.symm.trans hclosed) Bool.false_ne_true
      | within full part split isOpen =>
          exact absurd (isOpen.symm.trans hclosed) Bool.false_ne_true
      | closed full part rest split isClosed idle written begun =>
          exact ⟨full, part, rest, split, written, begun,
            fun hopen => absurd (hopen.symm.trans hclosed) Bool.false_ne_true⟩

end Writer

end WriteLoop
