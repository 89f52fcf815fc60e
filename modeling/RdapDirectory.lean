import RdapDirectory.Main
import RdapDirectory.Proofs.Paths
import RdapDirectory.Proofs.Places
import RdapDirectory.Proofs.Growth
import RdapDirectory.Proofs.DiskCache
import RdapDirectory.Proofs.CacheContent
import RdapDirectory.Proofs.Registries
import RdapDirectory.Proofs.Retrieval
import RdapDirectory.Proofs.Turns
import RdapDirectory.Proofs.Acts
import RdapDirectory.Proofs.Sharing
import RdapDirectory.Proofs.Coherence
import RdapDirectory.Proofs.SpoiledFiles
import RdapDirectory.Proofs.Demand
import RdapDirectory.Proofs.PathMoves
import RdapDirectory.Proofs.ClearPaths
import RdapDirectory.Proofs.LastingCaches
import RdapDirectory.Proofs.Downloads
import RdapDirectory.Proofs.Standings
import RdapDirectory.Proofs.Batches
import RdapDirectory.Proofs.FolderContents
import RdapDirectory.Proofs.PrivateFolders
import RdapDirectory.Proofs.CallHistories
import RdapDirectory.Proofs.AtomicSteps
import RdapDirectory.Proofs.Crews
import RdapDirectory.Proofs.Interleavings
import RdapDirectory.Proofs.LateMoves
import RdapDirectory.Proofs.AddressTexts
import RdapDirectory.Proofs.AsciiNames
import RdapDirectory.Proofs.Detection
import RdapDirectory.Proofs.SmallLetters
import RdapDirectory.Proofs.Answers
import RdapDirectory.Proofs.Escapes
import RdapDirectory.Proofs.Hosts
import RdapDirectory.Proofs.Placement
import RdapDirectory.Proofs.BaseUrls
import RdapDirectory.Proofs.Precedence
import RdapDirectory.Proofs.OctetOrder
import RdapDirectory.Proofs.SearchRows
import RdapDirectory.Proofs.SystemRanges
import RdapDirectory.Proofs.Blocks
import RdapDirectory.Proofs.LongestPrefixes
import RdapDirectory.Proofs.BlockBounds
import RdapDirectory.Proofs.SettingSteps
import RdapDirectory.Proofs.Merging
import RdapDirectory.Proofs.HiddenFiles
import RdapDirectory.Proofs.UnreadTags
import RdapDirectory.Proofs.Experiment
import RdapDirectory.Proofs.Recognition
import RdapDirectory.Proofs.RequestCodes
import RdapDirectory.Proofs.Offers
import RdapDirectory.Proofs.LetterCases
import RdapDirectory.Proofs.NameSuffixes
import RdapDirectory.Proofs.TagHandles
import RdapDirectory.Proofs.Durations
import RdapDirectory.Proofs.RegistryUrls
import RdapDirectory.Proofs.Accounting
