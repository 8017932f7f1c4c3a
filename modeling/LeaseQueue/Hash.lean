/-!
The string hash that turns names into lock ids: each byte is added to 33 times the hash so far, in 64 bits.
-/
namespace LeaseQueue

def hashFrom (seed : UInt64) (bytes : List UInt8) : UInt64 :=
  bytes.foldl (fun hash byte => hash * 33 + byte.toUInt64) seed

theorem hashFrom_cons (seed : UInt64) (byte : UInt8) (bytes : List UInt8) :
    hashFrom seed (byte :: bytes) = hashFrom (seed * 33 + byte.toUInt64) bytes :=
  rfl

/-- Hashing goes on from the hash of what stands in front. -/
theorem hashFrom_append (seed : UInt64) (front back : List UInt8) :
    hashFrom seed (front ++ back) = hashFrom (hashFrom seed front) back :=
  List.foldl_append

def hashBytes (bytes : List UInt8) : UInt64 := hashFrom 5381 bytes

/-- The advisory lock id of a name: its hash, read as a signed number. -/
def lockIdFor (name : String) : Int := (hashBytes name.toUTF8.data.toList).toInt64.toInt

end LeaseQueue
