import PackageRegistry.Main
import PackageRegistry.Proofs.Search.Reorder
import PackageRegistry.Proofs.Store.Counts
import PackageRegistry.Proofs.Store.Dates
import PackageRegistry.Proofs.Store.WordFilters
import PackageRegistry.Proofs.Search.QueryText
import PackageRegistry.Proofs.Store.HiddenSecrets
import PackageRegistry.Proofs.Search.Classify
import PackageRegistry.Proofs.Store.BindNames
import PackageRegistry.Proofs.Text.Codecs
import PackageRegistry.Proofs.Auth.Header
import PackageRegistry.Proofs.Auth.Lookup
import PackageRegistry.Proofs.Config.Failures
import PackageRegistry.Proofs.Package.Names
import PackageRegistry.Proofs.Package.Platforms
import PackageRegistry.Proofs.Package.Versions
import PackageRegistry.Proofs.Config.Merge
import PackageRegistry.Proofs.Cli.Register
