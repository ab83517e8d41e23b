import Concordance.Config.File
import Concordance.Json.Render
import Concordance.Proofs.LogHandles
import Concordance.Proofs.Store.Atomic
import Concordance.Proofs.Store.Postings
import Concordance.Proofs.Store.Restoring
import Concordance.SharedStore
import Concordance.Proofs.Store.Verifying
import Concordance.Proofs.Store.Truncated
import Concordance.Proofs.Store.Opening
import Concordance.Proofs.SharedStore
import Concordance.Proofs.Store.Replies
import Concordance.Proofs.Store.Behind
import Concordance.Proofs.Store.Together
import Concordance.Proofs.Store.Alone
import Concordance.Proofs.IndexFile.Format
import Concordance.Proofs.IndexFile.Canonical
import Concordance.Proofs.Store.RoundTrip
import Concordance.Proofs.Store.Remembering
import Concordance.Proofs.LinkIndex.Settings
import Concordance.Proofs.Store.Boundaries
import Concordance.ReadBuffer
import Concordance.Proofs.ReadBuffer
import Concordance.Proofs.LogReader
import Concordance.Proofs.Store.Failing
import Concordance.Proofs.Trie.Updates
import Concordance.Proofs.Trie.Walk
import Concordance.Proofs.Invariant.Reports
import Concordance.Proofs.Tokenizer.Delimiters
import Concordance.Proofs.Trie.Arena
import Concordance.Proofs.Trie.Search
import Concordance.Proofs.Store.SideBySide
import Concordance.Proofs.Config.Document
