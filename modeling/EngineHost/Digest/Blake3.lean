/-
The BLAKE3 hash with its default output of 32 bytes.  The input is cut into
chunks of 1024 bytes, each chunk into blocks of 64.  A chunk chains its blocks
through the compression function, and the chunks are the leaves of a binary
tree whose left subtrees are complete and as large as possible.
-/
namespace EngineHost
namespace Digest
namespace Blake3

abbrev Words (n : Nat) := Vector UInt32 n

def start : Words 8 :=
  #v[0x6A09E667, 0xBB67AE85, 0x3C6EF372, 0xA54FF53A,
     0x510E527F, 0x9B05688C, 0x1F83D9AB, 0x5BE0CD19]

def chunkStart : UInt32 := 1
def chunkEnd : UInt32 := 2
def parent : UInt32 := 4
def root : UInt32 := 8

def rotateRight (x n : UInt32) : UInt32 := (x >>> n) ||| (x <<< (32 - n))

/-- The quarter step: mix four words of the state with two of the message. -/
def mix (v : Words 16) (a b c d : Fin 16) (x y : UInt32) : Words 16 :=
  let va := v[a] + v[b] + x
  let vd := rotateRight (v[d] ^^^ va) 16
  let vc := v[c] + vd
  let vb := rotateRight (v[b] ^^^ vc) 12
  let va := va + vb + y
  let vd := rotateRight (vd ^^^ va) 8
  let vc := vc + vd
  let vb := rotateRight (vb ^^^ vc) 7
  (((v.set a va).set b vb).set c vc).set d vd

/-- Columns first, then diagonals. -/
def round (v m : Words 16) : Words 16 :=
  let v := mix v 0 4 8 12 m[0] m[1]
  let v := mix v 1 5 9 13 m[2] m[3]
  let v := mix v 2 6 10 14 m[4] m[5]
  let v := mix v 3 7 11 15 m[6] m[7]
  let v := mix v 0 5 10 15 m[8] m[9]
  let v := mix v 1 6 11 12 m[10] m[11]
  let v := mix v 2 7 8 13 m[12] m[13]
  mix v 3 4 9 14 m[14] m[15]

def permute (m : Words 16) : Words 16 :=
  #v[m[2], m[6], m[3], m[10], m[7], m[0], m[4], m[13],
     m[1], m[11], m[12], m[5], m[9], m[14], m[15], m[8]]

def rounds : Nat → Words 16 → Words 16 → Words 16
  | 0, v, _ => v
  | n + 1, v, m => rounds n (round v m) (permute m)

/-- One block: what `compress` needs to know beside the chaining value. -/
structure Block where
  words : Words 16
  counter : UInt64
  length : UInt32
  flags : UInt32

def compress (chain : Words 8) (b : Block) : Words 8 :=
  let v : Words 16 :=
    #v[chain[0], chain[1], chain[2], chain[3], chain[4], chain[5], chain[6], chain[7],
       start[0], start[1], start[2], start[3],
       b.counter.toUInt32, (b.counter >>> 32).toUInt32, b.length, b.flags]
  let v := rounds 7 v b.words
  #v[v[0] ^^^ v[8], v[1] ^^^ v[9], v[2] ^^^ v[10], v[3] ^^^ v[11],
     v[4] ^^^ v[12], v[5] ^^^ v[13], v[6] ^^^ v[14], v[7] ^^^ v[15]]

def byteAt (bytes : ByteArray) (i : Nat) : UInt8 := if h : i < bytes.size then bytes[i] else 0

/-- Four bytes as a word, the low byte first.  Bytes past the end read as zero. -/
def wordAt (bytes : ByteArray) (i : Nat) : UInt32 :=
  (byteAt bytes i).toUInt32 ||| ((byteAt bytes (i + 1)).toUInt32 <<< 8)
    ||| ((byteAt bytes (i + 2)).toUInt32 <<< 16) ||| ((byteAt bytes (i + 3)).toUInt32 <<< 24)

def blockWords (bytes : ByteArray) (offset : Nat) : Words 16 :=
  Vector.ofFn fun i => wordAt bytes (offset + 4 * i.val)

/-- A node whose last compression is still to be done, since the root of the
tree does it with one more flag. -/
structure Node where
  chain : Words 8
  block : Block

def Node.value (n : Node) : Words 8 := compress n.chain n.block

def Node.rootValue (n : Node) : Words 8 :=
  compress n.chain { n.block with counter := 0, flags := n.block.flags ||| root }

/-- Chain the blocks of one chunk, all but the last. -/
def chunkBlocks (counter : UInt64) : Nat → Words 8 → UInt32 → ByteArray → Node
  | 0, chain, flag, bytes =>
    { chain, block := { words := blockWords bytes 0, counter, length := bytes.size.toUInt32,
                        flags := flag ||| chunkEnd } }
  | more + 1, chain, flag, bytes =>
    let block : Block := { words := blockWords bytes 0, counter, length := 64, flags := flag }
    chunkBlocks counter more (compress chain block) 0 (bytes.extract 64 bytes.size)

/-- A chunk of `bytes`, at most 1024 of them.  An empty chunk is one empty
block. -/
def chunk (counter : UInt64) (bytes : ByteArray) : Node :=
  chunkBlocks counter ((bytes.size - 1) / 64) start chunkStart bytes

def join (left right : Node) : Node :=
  { chain := start,
    block := { words := left.value ++ right.value, counter := 0, length := 64,
               flags := parent } }

/-- The largest power of two below `n`, for `n` at least 2: the number of chunks
that go to the left. -/
def leftSize (n : Nat) : Nat := Nat.pow 2 (n - 1).log2

theorem leftSize_pos (n : Nat) : 0 < leftSize n := Nat.two_pow_pos _

theorem leftSize_lt {n : Nat} (h : 2 ≤ n) : leftSize n < n := by
  have hle : Nat.pow 2 (n - 1).log2 ≤ n - 1 := Nat.log2_self_le (by omega)
  exact Nat.lt_of_le_of_lt hle (by omega)

/-- The tree over `count` chunks of `bytes`, the first of which has number
`first`. -/
def tree (first : Nat) (count : Nat) (bytes : ByteArray) : Node :=
  if h : count < 2 then chunk first.toUInt64 bytes
  else
    let left := leftSize count
    join (tree first left (bytes.extract 0 (1024 * left)))
      (tree (first + left) (count - left) (bytes.extract (1024 * left) bytes.size))
termination_by count
decreasing_by
  · exact leftSize_lt (by omega)
  · have := leftSize_pos count; omega

def wordBytes (w : UInt32) : List UInt8 :=
  [w.toUInt8, (w >>> 8).toUInt8, (w >>> 16).toUInt8, (w >>> 24).toUInt8]

def hash (bytes : ByteArray) : ByteArray :=
  let node := tree 0 ((bytes.size + 1023) / 1024) bytes
  ⟨(node.rootValue.toList.flatMap wordBytes).toArray⟩

end Blake3
end Digest
end EngineHost
