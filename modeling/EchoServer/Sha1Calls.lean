import EchoServer.LabelledRun
import EchoServer.Sha1Digest

/-!
# Runs of calls of `SHA1`

Seen from outside, the object takes a message in pieces, gives its digest as
often as it is asked, and refuses for good once it is given more after that,
or more than it can count.  Only a reset makes it usable again.
-/

namespace EchoServer

open SecureHash LabelledRun

/-- The calls of the public functions. -/
inductive Sha1Call
  | reset
  | input (messageArray : Bytes)
  | insertion (messageArray : Bytes)
  | result

/-- The object, and what `Result` has returned. -/
structure Sha1Session where
  sha : Sha1
  digests : List (Option Words)

namespace Sha1Session

/-- A new object, in memory that holds any block. -/
def new (messageBlock : Block 64) : Sha1Session where
  sha := Sha1.new messageBlock
  digests := []

/-- One call. -/
def step (session : Sha1Session) :
    Sha1Call → Except Sha1Fault Sha1Session
  | .reset => .ok { session with sha := session.sha.reset }
  | .input messageArray => do
      let sha ← session.sha.input messageArray
      .ok { session with sha }
  | .insertion messageArray => do
      let sha ← session.sha.insertion messageArray
      .ok { session with sha }
  | .result => do
      let answer ← session.sha.result
      .ok
        { sha := answer.2
          digests := session.digests ++ [answer.1] }

end Sha1Session

/-- What the object is for: it takes a message, has given the digest of one,
or is spoiled. -/
inductive Hashing
  | taking (message : Bytes)
  | finished (message : Bytes)
  | spoiled

namespace Hashing

/-- More of the message. -/
def feed (piece : Bytes) : Hashing → Hashing
  | .taking message =>
      if Admissible (message ++ piece) then .taking (message ++ piece)
      else .spoiled
  | .finished message => if piece = [] then .finished message else .spoiled
  | .spoiled => .spoiled

/-- The digest, if there is one. -/
def digest : Hashing → Option Words
  | .taking message => some (sha1 message)
  | .finished message => some (sha1 message)
  | .spoiled => none

/-- What it is after the digest has been asked for. -/
def finish : Hashing → Hashing
  | .taking message => .finished message
  | .finished message => .finished message
  | .spoiled => .spoiled

theorem feed_append (first second : Bytes) (hashing : Hashing) :
    hashing.feed (first ++ second) = (hashing.feed first).feed second := by
  cases hashing with
  | taking message =>
      by_cases admissible : Admissible (message ++ first)
      · simp only [feed, if_pos admissible, List.append_assoc]
      · have tooLong : ¬ Admissible (message ++ (first ++ second)) := by
          rw [Admissible, ← List.append_assoc, List.length_append]
          rw [Admissible] at admissible
          omega
        simp only [feed, if_neg admissible, if_neg tooLong]
  | finished message => cases first <;> cases second <;> rfl
  | spoiled => rfl

end Hashing

/-- The abstract object, and what it has answered. -/
structure HashingSession where
  hashing : Hashing
  digests : List (Option Words)

/-- One call of the abstract object. -/
def HashingSession.step (session : HashingSession) :
    Sha1Call → HashingSession
  | .reset => { session with hashing := .taking [] }
  | .input piece => { session with hashing := session.hashing.feed piece }
  | .insertion piece =>
      { session with hashing := session.hashing.feed (cString piece) }
  | .result =>
      { hashing := session.hashing.finish
        digests := session.digests ++ [session.hashing.digest] }

/-- The object stands for the abstract one. -/
def Sha1.Represents (sha : Sha1) : Hashing → Prop
  | .taking message => sha.Holds message
  | .finished message =>
      sha.computed = true ∧ sha.corrupted = false ∧ sha.h = sha1 message
  | .spoiled => sha.corrupted = true

namespace Sha1

variable {sha : Sha1} {hashing : Hashing}

/-- Whatever an object that takes no more is given, it is spoiled. -/
theorem input_closed {piece : Bytes} (notEmpty : piece ≠ [])
    (closed : (sha.computed || sha.corrupted) = true) :
    sha.input piece = .ok { sha with corrupted := true } := by
  have length : ¬ piece.length = 0 :=
    fun zero => notEmpty (List.eq_nil_of_length_eq_zero zero)
  rw [input, if_neg length, if_pos closed]

theorem input_represents (represents : sha.Represents hashing)
    (piece : Bytes) :
    ∃ after, sha.input piece = .ok after ∧
      after.Represents (hashing.feed piece) := by
  by_cases empty : piece = []
  · subst empty
    refine ⟨sha, rfl, ?_⟩
    cases hashing with
    | taking message =>
        have admissible := Holds.admissible represents
        rw [Hashing.feed, List.append_nil, if_pos admissible]
        exact represents
    | finished message => exact represents
    | spoiled => exact represents
  · cases hashing with
    | taking message =>
        have holds : sha.Holds message := represents
        have length : ¬ piece.length = 0 :=
          fun zero => empty (List.eq_nil_of_length_eq_zero zero)
        obtain ⟨after, ran, kept, spoiled⟩ := holds.inputLoop piece
        refine ⟨after, ?_, ?_⟩
        · rw [input, if_neg length, holds.open_, holds.sound]
          exact ran
        · rw [Hashing.feed]
          split
          · rename_i admissible
            exact kept admissible
          · rename_i tooLong
            exact spoiled tooLong
    | finished message =>
        have closed : (sha.computed || sha.corrupted) = true := by
          rw [represents.1]
          rfl
        refine ⟨_, input_closed empty closed, ?_⟩
        rw [Hashing.feed, if_neg empty]
        rfl
    | spoiled =>
        have closed : (sha.computed || sha.corrupted) = true := by
          rw [show sha.corrupted = true from represents, Bool.or_true]
        exact ⟨_, input_closed empty closed, rfl⟩

theorem inputEach_represents (represents : sha.Represents hashing)
    (piece : Bytes) :
    ∃ after, sha.inputEach piece = .ok after ∧
      after.Represents (hashing.feed piece) := by
  induction piece generalizing sha hashing with
  | nil =>
      obtain ⟨after, ran, kept⟩ := input_represents represents []
      obtain rfl : sha = after := Except.ok.inj ran
      exact ⟨sha, rfl, kept⟩
  | cons byte piece ih =>
      obtain ⟨next, stepped, kept⟩ := input_represents represents [byte]
      obtain ⟨after, ran, final⟩ := ih kept
      refine ⟨after, ?_, ?_⟩
      · rw [inputEach, stepped]
        exact ran
      · rw [← List.singleton_append, Hashing.feed_append]
        exact final

theorem result_represents (represents : sha.Represents hashing) :
    ∃ after, sha.result = .ok (hashing.digest, after) ∧
      after.Represents hashing.finish := by
  cases hashing with
  | taking message =>
      have holds : sha.Holds message := represents
      obtain ⟨padded, ran, sound, h⟩ := holds.padMessage
      refine ⟨{ padded with computed := true }, ?_, rfl, sound, h⟩
      simp only [result, holds.sound, holds.open_, ran]
      simp only [Hashing.digest, ← h]
      rfl
  | finished message =>
      obtain ⟨computed, sound, h⟩ := represents
      refine ⟨sha, ?_, computed, sound, h⟩
      simp only [result, sound, computed]
      simp only [Hashing.digest, ← h]
      rfl
  | spoiled => exact ⟨sha, if_pos represents, represents⟩

end Sha1

/-- A call keeps what the object stands for, and gives the same answer. -/
theorem Sha1Session.step_represents {session : Sha1Session}
    {abstract : HashingSession}
    (represents : session.sha.Represents abstract.hashing)
    (same : session.digests = abstract.digests) (call : Sha1Call) :
    ∃ after, session.step call = .ok after ∧
      after.sha.Represents (abstract.step call).hashing ∧
      after.digests = (abstract.step call).digests := by
  cases call with
  | reset => exact ⟨_, rfl, Sha1.reset_holds _, same⟩
  | input piece =>
      obtain ⟨after, ran, kept⟩ := Sha1.input_represents represents piece
      refine ⟨{ session with sha := after }, ?_, kept, same⟩
      rw [step, ran]
      rfl
  | insertion piece =>
      obtain ⟨after, ran, kept⟩ :=
        Sha1.inputEach_represents represents (cString piece)
      refine ⟨{ session with sha := after }, ?_, kept, same⟩
      rw [step, Sha1.insertion, ran]
      rfl
  | result =>
      obtain ⟨after, ran, kept⟩ := Sha1.result_represents represents
      refine ⟨⟨after, session.digests ++ [abstract.hashing.digest]⟩, ?_,
        kept, ?_⟩
      · rw [step, ran]
        rfl
      · rw [same]
        rfl

/-- Whatever is called in whatever order, from any memory: no call writes
behind the block, and `Result` has returned what the abstract object answers,
which is the digest of the Secure Hash Standard. -/
theorem sha1_calls (messageBlock : Block 64) (calls : List Sha1Call) :
    ∃ session,
      runActions Sha1Session.step (.new messageBlock) calls = .ok session ∧
      session.digests =
        (calls.foldl HashingSession.step ⟨.taking [], []⟩).digests := by
  have run : ∀ (session : Sha1Session) (abstract : HashingSession),
      session.sha.Represents abstract.hashing →
      session.digests = abstract.digests →
      ∃ after, runActions Sha1Session.step session calls = .ok after ∧
        after.digests = (calls.foldl HashingSession.step abstract).digests := by
    induction calls with
    | nil =>
        intro session abstract _ same
        exact ⟨session, rfl, same⟩
    | cons call calls ih =>
        intro session abstract represents same
        obtain ⟨next, stepped, kept, still⟩ :=
          session.step_represents represents same call
        obtain ⟨after, ran, digests⟩ := ih next _ kept still
        refine ⟨after, ?_, digests⟩
        rw [runActions_cons_ok calls stepped]
        exact ran
  exact run _ _ (Sha1.reset_holds _) rfl

end EchoServer
