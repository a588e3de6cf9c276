import Klend.Library.CallStack
import Klend.State.ReserveConfig

/-! # The checks of a flash loan

A flash borrow and a flash repay each inspect the transaction they run in: the
borrow looks ahead for its repayment, the repay looks back at its borrow.
-/

namespace Klend.FlashIxs

/-- `crate::ID`, the address the program is deployed at. -/
def ID : Pubkey := ⟨0x4b2acb11258cce3682c418ba872ff3df91102712f15af12b6be69b3435b0008, by decide⟩

def transactionLevelStackHeight : ℕ := 1

structure Instruction where
  programId : Pubkey
  accounts : List Pubkey
  data : List U8
deriving DecidableEq, Repr

def flashBorrowDiscriminator : List U8 := [135, 231, 52, 167, 7, 52, 212, 193]

def flashRepayDiscriminator : List U8 := [185, 117, 0, 203, 96, 245, 180, 186]

/-- `data[..8]`. -/
def discriminator (data : List U8) : Result (List U8) :=
  if 8 ≤ data.length then pure (data.take 8) else abort

/-- The number whose bytes are given, the least significant first. -/
def fromLeBytes (bytes : List U8) : ℕ := bytes.foldr (fun b n ↦ b + 256 * n) 0

/-- The borsh encoding of a `u64`, read off the front. -/
def readU64 (bytes : List U8) : Result (U64 × List U8) := do
  requireAnchor (8 ≤ bytes.length)
  let n ← Word.fit 64 (fromLeBytes (bytes.take 8))
  pure (n, bytes.drop 8)

structure FlashBorrowReserveLiquidityArgs where
  liquidityAmount : U64
deriving DecidableEq, Repr

structure FlashRepayReserveLiquidityArgs where
  liquidityAmount : U64
  borrowInstructionIndex : U8
deriving DecidableEq, Repr

/-- The arguments of an instruction call; what follows them is ignored. -/
def FlashBorrowReserveLiquidityArgs.deserialize (bytes : List U8) :
    Result FlashBorrowReserveLiquidityArgs := do
  let (liquidityAmount, _) ← readU64 bytes
  pure { liquidityAmount }

/-- The arguments with the bytes that follow them. -/
def FlashRepayReserveLiquidityArgs.deserialize (bytes : List U8) :
    Result (FlashRepayReserveLiquidityArgs × List U8) := do
  let (liquidityAmount, rest) ← readU64 bytes
  match rest with
  | [] => .error .anchor
  | borrowInstructionIndex :: rest => pure ({ liquidityAmount, borrowInstructionIndex }, rest)

/-- `try_from_slice`: nothing may follow the arguments. -/
def FlashRepayReserveLiquidityArgs.tryFromSlice (bytes : List U8) :
    Result FlashRepayReserveLiquidityArgs := do
  let (args, rest) ← deserialize bytes
  requireAnchor (rest = [])
  pure args

/-- What an instruction can learn about the transaction it runs in. -/
structure InstructionLoader where
  instructions : List Instruction
  currentIndex : ℕ
  stackHeight : ℕ

namespace InstructionLoader

def loadInstructionAt (loader : InstructionLoader) (index : ℕ) : Result Instruction :=
  match loader.instructions[index]? with
  | some ixn => pure ixn
  | none => .error .anchor

def isFlashForbiddenCpiCall (loader : InstructionLoader) : Result Bool := do
  let currentIxn ← loader.loadInstructionAt loader.currentIndex
  if ID ≠ currentIxn.programId then pure true
  else pure (decide (transactionLevelStackHeight < loader.stackHeight))

/-- `IxIterator::new_at`: the instructions from an index to the end of the transaction. -/
def ixIterator (loader : InstructionLoader) (startIxIndex : ℕ) : List Instruction :=
  loader.instructions.drop startIxIndex

end InstructionLoader

def flashRepayChecks (loader : InstructionLoader) (reserve : Pubkey)
    (borrowInstructionIndex : U8) (liquidityAmount : U64) : Result Unit := do
  let forbidden ← loader.isFlashForbiddenCpiCall
  require (forbidden = false) .flashRepayCpi
  require (¬ loader.currentIndex < (borrowInstructionIndex : ℕ)) .invalidFlashRepay
  let ixn ← loader.loadInstructionAt borrowInstructionIndex
  require (ixn.programId = ID) .invalidFlashRepay
  let ixnDiscriminator ← discriminator ixn.data
  require (ixnDiscriminator = flashBorrowDiscriminator) .invalidFlashRepay
  let (borrowLiquidityAmount, _) ← readU64 (ixn.data.drop 8)
  let ixnReserve ← unwrap ixn.accounts[3]?
  require (ixnReserve = reserve) .invalidFlashRepay
  require (liquidityAmount = borrowLiquidityAmount) .invalidFlashRepay

def flashBorrowCheckMatchingRepay (liquidityAmount : U64) (borrowIx repayIx : Instruction)
    (borrowIndex : ℕ) : Result Unit := do
  let repayIxData ← FlashRepayReserveLiquidityArgs.tryFromSlice (repayIx.data.drop 8)
  require (repayIxData.liquidityAmount = liquidityAmount) .invalidFlashRepay
  require ((repayIxData.borrowInstructionIndex : ℕ) = borrowIndex) .invalidFlashRepay
  require (repayIx.accounts.length = borrowIx.accounts.length) .invalidFlashRepay
  (borrowIx.accounts.zip repayIx.accounts).forM fun p ↦ require (p.1 = p.2) .invalidFlashRepay

/-- The borrow's loop over the instructions after it. -/
def findRepayIx (liquidityAmount : U64) (borrowIx : Instruction) (currentIndex : ℕ) :
    Bool → List Instruction → Result Bool
  | foundRepayIx, [] => pure foundRepayIx
  | foundRepayIx, ixn :: rest =>
    if ixn.programId ≠ ID then findRepayIx liquidityAmount borrowIx currentIndex foundRepayIx rest
    else do
      let ixnDiscriminator ← discriminator ixn.data
      require (ixnDiscriminator ≠ flashBorrowDiscriminator) .multipleFlashBorrows
      if ixnDiscriminator = flashRepayDiscriminator then do
        require (foundRepayIx = false) .multipleFlashBorrows
        flashBorrowCheckMatchingRepay liquidityAmount borrowIx ixn currentIndex
        findRepayIx liquidityAmount borrowIx currentIndex true rest
      else findRepayIx liquidityAmount borrowIx currentIndex foundRepayIx rest

def flashBorrowChecks (loader : InstructionLoader) (liquidityAmount : U64) : Result Unit := do
  let forbidden ← loader.isFlashForbiddenCpiCall
  require (forbidden = false) .flashBorrowCpi
  let borrowIx ← loader.loadInstructionAt loader.currentIndex
  let foundRepayIx ← findRepayIx liquidityAmount borrowIx loader.currentIndex false
    (loader.ixIterator (loader.currentIndex + 1))
  require (foundRepayIx = true) .noFlashRepayFound

/-- Both flash instructions take twelve accounts, the reserve fourth. -/
def reserveAccount (ixn : Instruction) : Result Pubkey := do
  requireAnchor (12 ≤ ixn.accounts.length)
  unwrap ixn.accounts[3]?

/-- What a call must pass as far as flash loans go: the dispatch on the discriminator and the checks
of the two flash instructions. -/
def processInstruction (loader : InstructionLoader) (ixn : Instruction) : Result Unit :=
  if ixn.programId ≠ ID then pure ()
  else do
    let ixnDiscriminator ← discriminator ixn.data
    if ixnDiscriminator = flashBorrowDiscriminator then do
      let args ← FlashBorrowReserveLiquidityArgs.deserialize (ixn.data.drop 8)
      let _ ← reserveAccount ixn
      flashBorrowChecks loader args.liquidityAmount
    else if ixnDiscriminator = flashRepayDiscriminator then do
      let (args, _) ← FlashRepayReserveLiquidityArgs.deserialize (ixn.data.drop 8)
      let reserve ← reserveAccount ixn
      flashRepayChecks loader reserve args.borrowInstructionIndex args.liquidityAmount
    else pure ()

/-- A transaction whose instructions, with everything they invoke, all succeed. -/
def Succeeds (tx : List Instruction) (log : List (CallStack.Call Instruction)) : Prop :=
  CallStack.Succeeds tx
    (fun c ↦ processInstruction ⟨tx, c.index, c.stackHeight⟩ c.instruction = .ok ()) log

end Klend.FlashIxs
