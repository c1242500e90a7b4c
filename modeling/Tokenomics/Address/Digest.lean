/-!
# BLAKE3 digests

The BLAKE3 hash of a list of bytes, 32 bytes long, without a key. The input is cut into chunks of
1024 bytes and these into blocks of 64. Every chunk is compressed block by block into a chaining
value; chaining values are joined pairwise, level by level, a last odd one going up as it is; and
the last compression of all, marked as the root, gives the digest.
-/

namespace Tokenomics.Digest

/-- Eight words that stand for all the input compressed so far. -/
abbrev Chain := Vector UInt32 8

/-- The sixteen words of a block, or of the state of a compression. -/
abbrev Words := Vector UInt32 16

/-- The chaining value before any input. -/
def initialChain : Chain :=
  #v[0x6A09E667, 0xBB67AE85, 0x3C6EF372, 0xA54FF53A, 0x510E527F, 0x9B05688C, 0x1F83D9AB,
    0x5BE0CD19]

/-- Where each word of a block goes between two rounds. -/
def schedule : Vector (Fin 16) 16 := #v[2, 6, 3, 10, 7, 0, 4, 13, 1, 11, 12, 5, 9, 14, 15, 8]

/-- The mark of the first block of a chunk. -/
def chunkStart : UInt32 := 1

/-- The mark of the last block of a chunk. -/
def chunkEnd : UInt32 := 2

/-- The mark of a block that joins two chaining values. -/
def parent : UInt32 := 4

/-- The mark of the compression that gives the digest. -/
def root : UInt32 := 8

/-- The bits of `x` moved `n` places to the right, those that drop out coming back on the left. -/
def rotateRight (x n : UInt32) : UInt32 := (x >>> n) ||| (x <<< (32 - n))

/-- Mix two message words into one column or diagonal of the state. -/
def mix (v : Words) (a b c d : Fin 16) (x y : UInt32) : Words :=
  let va := v[a] + v[b] + x
  let vd := rotateRight (v[d] ^^^ va) 16
  let vc := v[c] + vd
  let vb := rotateRight (v[b] ^^^ vc) 12
  let va := va + vb + y
  let vd := rotateRight (vd ^^^ va) 8
  let vc := vc + vd
  let vb := rotateRight (vb ^^^ vc) 7
  (((v.set a va).set b vb).set c vc).set d vd

/-- One round: the four columns, then the four diagonals. -/
def round (v m : Words) : Words :=
  let v := mix v 0 4 8 12 m[0] m[1]
  let v := mix v 1 5 9 13 m[2] m[3]
  let v := mix v 2 6 10 14 m[4] m[5]
  let v := mix v 3 7 11 15 m[6] m[7]
  let v := mix v 0 5 10 15 m[8] m[9]
  let v := mix v 1 6 11 12 m[10] m[11]
  let v := mix v 2 7 8 13 m[12] m[13]
  mix v 3 4 9 14 m[14] m[15]

/-- The message words in the order of the next round. -/
def permute (m : Words) : Words := schedule.map fun i ↦ m[i]

/-- `n` rounds, the message words permuted between them. -/
def rounds : Nat → Words → Words → Words
  | 0, v, _ => v
  | n + 1, v, m => rounds n (round v m) (permute m)

/-- All that one compression takes. -/
structure Node where
  chain : Chain
  block : Words
  counter : UInt64
  length : UInt32
  flags : UInt32

/-- The chaining value that a compression gives. -/
def Node.output (n : Node) : Chain :=
  let h := n.chain
  let v : Words := #v[h[0], h[1], h[2], h[3], h[4], h[5], h[6], h[7],
    initialChain[0], initialChain[1], initialChain[2], initialChain[3],
    n.counter.toUInt32, (n.counter >>> 32).toUInt32, n.length, n.flags]
  let w := rounds 7 v n.block
  #v[w[0] ^^^ w[8], w[1] ^^^ w[9], w[2] ^^^ w[10], w[3] ^^^ w[11],
    w[4] ^^^ w[12], w[5] ^^^ w[13], w[6] ^^^ w[14], w[7] ^^^ w[15]]

/-- Four bytes from position `i` on as a word, the least significant first; zero past the end. -/
def wordAt (bytes : Array UInt8) (i : Nat) : UInt32 :=
  let b (j : Nat) : UInt32 := (bytes.getD (i + j) 0).toUInt32
  b 0 ||| (b 1 <<< 8) ||| (b 2 <<< 16) ||| (b 3 <<< 24)

/-- The 64 bytes from position `i` on as words; zero past the end. -/
def blockAt (bytes : Array UInt8) (i : Nat) : Words := Vector.ofFn fun j ↦ wordAt bytes (i + 4 * j)

/-- The last compression of the chunk `bytes`, whose number is `counter`. `chain` is what the
blocks before position `i` gave, and `blocks` bounds how many follow the one at `i`. -/
def chunkFrom (bytes : Array UInt8) (counter : UInt64) (i : Nat) (chain : Chain) : Nat → Node
  | 0 => ⟨chain, blockAt bytes i, counter, (bytes.size - i).toUInt32,
      (if i = 0 then chunkStart else 0) ||| chunkEnd⟩
  | blocks + 1 =>
    let node : Node := ⟨chain, blockAt bytes i, counter, 64, if i = 0 then chunkStart else 0⟩
    chunkFrom bytes counter (i + 64) node.output blocks

/-- The last compression of a chunk. -/
def chunk (bytes : Array UInt8) (counter : UInt64) : Node :=
  chunkFrom bytes counter 0 initialChain ((bytes.size - 1) / 64)

/-- The chunks of the input in order; the empty input has one empty chunk. -/
def chunks (bytes : Array UInt8) : List Node :=
  (List.range ((bytes.size - 1) / 1024 + 1)).map fun i ↦
    chunk (bytes.extract (1024 * i) (1024 * (i + 1))) i.toUInt64

/-- The compression that joins two subtrees. -/
def join (l r : Node) : Node := ⟨initialChain, l.output ++ r.output, 0, 64, parent⟩

/-- One level up in the tree. -/
def joinPairs : List Node → List Node
  | l :: r :: rest => join l r :: joinPairs rest
  | l => l

/-- The root of the tree over a list of subtrees, reached within `levels` steps. -/
def rootOf : Nat → List Node → Option Node
  | _, [] => none
  | _, [n] => some n
  | 0, _ => none
  | levels + 1, l => rootOf levels (joinPairs l)

/-- The bytes of a word, the least significant first. -/
def wordBytes (w : UInt32) : Vector UInt8 4 :=
  #v[w.toUInt8, (w >>> 8).toUInt8, (w >>> 16).toUInt8, (w >>> 24).toUInt8]

/-- The digest of the input. -/
def digest (input : ByteArray) : Vector UInt8 32 :=
  let bytes := input.data
  let nodes := chunks bytes
  let words := match rootOf nodes.length nodes with
    | some n => { n with counter := 0, flags := n.flags ||| root }.output
    | none => initialChain
  (words.map wordBytes).flatten

end Tokenomics.Digest
