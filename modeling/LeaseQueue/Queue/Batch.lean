import LeaseQueue.Chunks
import LeaseQueue.Queue.Result

/-!
Batched sends. A batch is cut into chunks, which are written one after the other; what a failing chunk means for the
others is up to the caller's options, and is the same wherever the messages are stored.
-/
namespace LeaseQueue

/-- What a batched send has done before it ends. -/
structure Placement where
  result : SendResult
  /-- Whether the chunks that were written are to stay. -/
  keep : Bool

/-- Writes the chunks of a batch of `total` messages in order. `write` writes one of them and gives the ids of its
messages, or fails and leaves nothing of it behind. -/
def placeChunks {m : Type → Type} [Monad m] (mode : PartialInsert) (total : Nat)
    (write : List NewMessage → m (Except Error (List MessageId))) :
    SendResult → List (List NewMessage) → m Placement
  | result, [] => pure ⟨result, true⟩
  | result, chunk :: rest => do
    match ← write chunk with
    | .ok ids => placeChunks mode total write (result.addSent ids) rest
    | .error failure =>
      match mode with
      | .prohibited => pure ⟨.allFailed total failure, false⟩
      | .untilFirstFailure => pure ⟨result.addFailed (total - result.ids.length) failure, true⟩
      | .asManyAsPossible => placeChunks mode total write (result.addFailed chunk.length failure) rest

end LeaseQueue
